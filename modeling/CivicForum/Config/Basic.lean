import CivicForum.Config.Address
import CivicForum.Config.Url
import CivicForum.Json.Format

/-! # Settings

* `Config`: the settings of the service.
* `Config.ofJson?`: the settings that a value writes. An unknown name is ignored, and `null` stands
  for an absent value only where the setting may be absent.
-/

set_option autoImplicit false

namespace CivicForum

/-- The settings of the moderation services. -/
structure Config.Moderation where
  /-- The user on whose behalf the watchlist raises flags. -/
  systemId : Int := 1
  /-- The time between two sweeps of elapsed penalties; with zero nobody sweeps. -/
  sweepSeconds : Nat := 300
  deriving Repr, DecidableEq

/-- The settings of the service. -/
structure Config where
  listenAddress : Option Address
  /-- Where the database is. -/
  db : String
  /-- Where counters are pushed to. -/
  metricsUrl : Option Url
  moderation : Config.Moderation
  deriving Repr, DecidableEq

namespace Config

namespace Moderation

/-- The JSON form of the settings; each has a default. -/
def format : Json.Format :=
  let standard : Moderation := {}
  .record
    [{ name := "system_user_id", format := .int, absent := some (.int standard.systemId) },
     { name := "expiry_sweep_secs", format := .natural,
       absent := some (.int standard.sweepSeconds) }]

/-- The settings that a value in the canonical form means. -/
def ofJson? (v : Json) : Option Moderation := do
  return {
    systemId := ← (← v.field? "system_user_id").int?
    sweepSeconds := (← (← v.field? "expiry_sweep_secs").int?).toNat }

end Moderation

/-- The receiver of counters: a type, which has one name only, and the URL of a gateway. -/
def gateway? (v : Json) : Option Url :=
  match v with
  | .list [.text "PrometheusPush", .text url] => Url.parse? url
  | .record fields =>
    match fields.lookup "type", fields.lookup "url" with
    | some (.text "PrometheusPush"), some (.text url) => Url.parse? url
    | _, _ => none
  | _ => none

/-- A setting that may be absent, read from a value that is `null` in that case. -/
def present? {α : Type} (read? : Json → Option α) (v : Json) : Option (Option α) :=
  match v with
  | .null => some none
  | v => (read? v).map some

/-- The JSON form of the settings. -/
def format : Json.Format :=
  .record
    [{ name := "listen_address", format := .optional .text, absent := some .null, inList := false },
     { name := "db", format := .text },
     { name := "metrics", format := .any, absent := some .null, inList := false },
     { name := "moderation", format := Moderation.format,
       absent := Moderation.format.fit (.record []) }]

/-- The settings that a value writes. -/
def ofJson? (v : Json) : Option Config := do
  let v ← format.fit v
  return {
    listenAddress := ← present? (fun a => a.text?.bind Address.parse?) (← v.field? "listen_address")
    db := ← (← v.field? "db").text?
    metricsUrl := ← present? gateway? (← v.field? "metrics")
    moderation := ← Moderation.ofJson? (← v.field? "moderation") }

end Config

end CivicForum
