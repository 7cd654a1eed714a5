import Scanout.Log.Record
import Scanout.Pattern.Compile

/-!
# Log filters

A filter is written as a list of directives between commas, and after a slash a pattern that every
record must match.  A directive is a level for all targets, a target to be let through whole, or a
target with its level.  Of the directives that apply to a record the one with the longest target
decides; without any directive only errors pass.

## Main definitions

* `Directive` — a target and the limit for it
* `Filter.parse` — a filter from its text, with the complaints about malformed parts
* `Filter.lets` — whether a filter lets a record through
-/

namespace Scanout.Log

/-- The limit for the targets that begin with a text, or for every target. -/
structure Directive where
  target : Option String
  limit : Option Level
  deriving DecidableEq, Repr

/-- The limit of a given name, in any case of letters; `off` lets nothing through. -/
def limitOfName? (name : String) : Option (Option Level) :=
  let lower := name.toLower
  if lower == "off" then some none
  else (Level.all.find? fun level => level.name == lower).map some

namespace Directive

/-- How long the target of a directive is; a directive for all targets comes before any other. -/
def width (d : Directive) : Nat :=
  match d.target with
  | none => 0
  | some target => target.utf8ByteSize

/-- Whether a directive applies to a target. -/
def applies (d : Directive) (target : String) : Bool :=
  match d.target with
  | none => true
  | some start => start.toList.isPrefixOf target.toList

/-- One directive from its text, or the part of the text that is malformed. -/
def parse (text : String) : Except String Directive :=
  match text.splitOn "=" with
  | [one] =>
      match limitOfName? one with
      | some limit => .ok ⟨none, limit⟩
      | none => .ok ⟨some one, some .trace⟩
  | [target, level] =>
      let level := Text.trimmed level
      if level.isEmpty then .ok ⟨some target, some .trace⟩
      else
        match limitOfName? level with
        | some limit => .ok ⟨some target, limit⟩
        | none => .error level
  | _ => .error text

end Directive

/-- **A filter**: directives, of which a later one for the same target has replaced an earlier one,
and a pattern to be matched somewhere in every record. -/
structure Filter where
  directives : List Directive
  matching : Option Pattern.Expr
  deriving Repr

namespace Filter

/-- Adds a directive in the place of one for the same target, or at the end. -/
def insert (directives : List Directive) (d : Directive) : List Directive :=
  if directives.any fun old => old.target == d.target then
    directives.map fun old => if old.target == d.target then d else old
  else directives ++ [d]

/-- The directives of a list between commas, and the complaints about those that are malformed. -/
def parseDirectives (text : String) : List Directive × List String :=
  let parts := (text.splitOn ",").map Text.trimmed
  (parts.filter fun part => !part.isEmpty).foldl
    (fun (directives, complaints) part =>
      match Directive.parse part with
      | .ok d => (insert directives d, complaints)
      | .error piece =>
          (directives, complaints ++ ["invalid logging spec '" ++ piece ++ "'"]))
    ([], [])

/-- **A filter from its text**, with the complaints about what is malformed in it.  A malformed part
is left out. -/
def parse (text : String) : Filter × List String :=
  match text.splitOn "/" with
  | [directives] =>
      let (directives, complaints) := parseDirectives directives
      (⟨directives, none⟩, complaints)
  | [directives, pattern] =>
      let (directives, complaints) := parseDirectives directives
      match Pattern.ofText pattern with
      | .ok e => (⟨directives, some e⟩, complaints)
      | .error report =>
          (⟨directives, none⟩, complaints ++ ["invalid regex filter - " ++ report])
  | _ => (⟨[], none⟩, ["invalid logging spec '" ++ text ++ "' (too many '/'s)"])

/-- The directive that decides about a target: of those that apply the last one with the longest
target, or the directive for errors if the filter has none at all. -/
def deciding (f : Filter) (target : String) : Option Directive :=
  let directives := if f.directives.isEmpty then [⟨none, some .error⟩] else f.directives
  (directives.filter fun d => d.applies target).foldl
    (fun best d =>
      match best with
      | none => some d
      | some b => if b.width ≤ d.width then some d else some b)
    none

/-- **Whether a filter lets a record through.** -/
def lets (f : Filter) (r : Record) : Bool :=
  (match f.deciding r.origin.target with
    | none => false
    | some d => r.level.within d.limit) &&
  f.matching.all fun e => e.occursIn r.text

end Filter

end Scanout.Log
