import CivicForum.Pattern.Basic
import CivicForum.Store.Statement
import CivicForum.Text.Lowercase

/-! # The watchlist

* `Watch.occursIn`: one text is part of another.
* `Watch.Entry.matches?`: whether content matches an entry; nothing when its pattern is none.
* `Watch.scan`: flags content once for every active entry that matches.
* `Watch.addKeyword`, `Watch.setActive`: the watchlist is extended, its entries switched.
-/

set_option autoImplicit false

namespace CivicForum.Watch

open Work Statement

/-! ## Matching -/

/-- The first text is part of the second. -/
def occursIn (part : List Char) : List Char → Bool
  | [] => part.isEmpty
  | c :: rest => part.isPrefixOf (c :: rest) || occursIn part rest

/-- Whether content matches an entry, given as it is and in lower case. A plain keyword is found in
either case; a pattern that is none matches nothing. -/
def Entry.matches? (e : Entry) (content lowered : List Char) : Option Bool :=
  if e.isPattern then (Pattern.compile? e.keyword.toList).map fun r => r.occursIn content
  else some (occursIn (Text.lower e.keyword.toList) lowered)

/-- The entries that content matches. -/
def matching (entries : List Entry) (content : String) : List Entry :=
  let cs := content.toList
  let lowered := Text.lower cs
  entries.filter fun e => e.matches? cs lowered = some true

/-! ## Scanning -/

/-- The flag that an entry raises, on behalf of the system. -/
def Entry.flag (e : Entry) (systemId : Int) (kind : Content.Kind) (contentId : Int) : NewFlag where
  contentKind := kind
  contentId := contentId
  reporterId := systemId
  reason := e.flagReason
  details := some ("Matched watchlist keyword: " ++ e.keyword)

/-- Raises the flags of some entries, one after the other. -/
def raiseAll (systemId : Int) (kind : Content.Kind) (contentId : Int) (now : Instant) :
    List Entry → Work (List Flag)
  | [] => pure []
  | e :: rest => do
    let f ← insertFlag (e.flag systemId kind contentId) now
    recordMatch e.id
    let fs ← raiseAll systemId kind contentId now rest
    return f :: fs

/-- Flags content once for every active entry that it matches. -/
def scan (systemId : Int) (content : String) (kind : Content.Kind) (contentId : Int)
    (now : Instant) : Work (List Flag) := do
  raiseAll systemId kind contentId now (matching (← current).activeKeywords content)

/-! ## Keeping the list -/

/-- A keyword is refused when it is blank, and a pattern when it is none. The message stops before the
text of the regular expression library on what is wrong with the pattern, which is not modelled. -/
def validate (keyword : String) (isPattern : Bool) : Except Refusal Unit :=
  if keyword.toList.all Text.isBlank then
    .error (.invalidAction "watchlist keyword must not be empty")
  else if isPattern && (Pattern.compile? keyword.toList).isNone then
    .error (.invalidAction "invalid watchlist pattern")
  else .ok ()

def addKeyword (keyword : String) (isPattern : Bool) (flagReason : String) (now : Instant) :
    Work Entry := do
  validate keyword isPattern
  insertKeyword keyword isPattern flagReason now

/-- Switches an entry on or off. -/
def setActive (id : Int) (isActive : Bool) : Work Entry := do
  match ← setKeywordActive id isActive with
  | some e => return e
  | none => throw (.notFound "watchlist keyword")

end CivicForum.Watch
