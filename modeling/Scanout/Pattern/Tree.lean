import Scanout.Pattern.Place

/-!
# Patterns as written

What a pattern says, part by part, each with the piece of the text that it was read from.  Flags are
kept where they stand; what they do to the parts behind them is decided when the meaning is worked
out.

## Main definitions

* `Pattern.Literal`, `Pattern.Atom` — parts that hold no other part
* `Pattern.Members` — what stands between brackets
* `Pattern.Tree` — a pattern
-/

namespace Scanout.Pattern

/-- A flag of a pattern. -/
inductive Flag where
  | caseInsensitive
  | multiLine
  | dotMatchesNewline
  | swapGreed
  | wideCharacters
  | carriageReturns
  | spaced
  deriving DecidableEq, Repr

/-- The flag of a given letter. -/
def Flag.ofChar? : Char → Option Flag
  | 'i' => some caseInsensitive
  | 'm' => some multiLine
  | 's' => some dotMatchesNewline
  | 'U' => some swapGreed
  | 'u' => some wideCharacters
  | 'R' => some carriageReturns
  | 'x' => some spaced
  | _ => none

/-- The flags that are switched, and for each whether it is switched on. -/
abbrev FlagChange := List (Flag × Bool)

/-- What becomes of a flag. -/
def FlagChange.value? (change : FlagChange) (flag : Flag) : Option Bool :=
  (change.find? fun (f, _) => f = flag).map Prod.snd

/-- A character that stands for itself.  One written by two hexadecimal digits may stand for a byte
instead. -/
structure Literal where
  span : Span
  char : Char
  fromByte : Bool
  deriving DecidableEq, Repr

/-- What is asked of the place between two characters. -/
inductive Anchor where
  | lineStart
  | lineEnd
  | textStart
  | textEnd
  | wordBoundary
  | noWordBoundary
  | wordStart
  | wordEnd
  | wordStartHalf
  | wordEndHalf
  deriving DecidableEq, Repr

/-- The classes of characters with a letter of their own. -/
inductive LetterClass where
  | digit
  | space
  | word
  deriving DecidableEq, Repr

/-- The classes of ASCII characters with a name. -/
inductive AsciiClass where
  | alnum
  | alpha
  | ascii
  | blank
  | cntrl
  | digit
  | graph
  | lower
  | print
  | punct
  | space
  | upper
  | word
  | xdigit
  deriving DecidableEq, Repr

/-- The class of a given name. -/
def AsciiClass.ofName? : String → Option AsciiClass
  | "alnum" => some alnum
  | "alpha" => some alpha
  | "ascii" => some ascii
  | "blank" => some blank
  | "cntrl" => some cntrl
  | "digit" => some digit
  | "graph" => some graph
  | "lower" => some lower
  | "print" => some print
  | "punct" => some punct
  | "space" => some space
  | "upper" => some upper
  | "word" => some word
  | "xdigit" => some xdigit
  | _ => none

/-- How a property of characters is asked for. -/
inductive PropertyQuery where
  | named (name : String)
  /-- A property with the value it is to have. -/
  | valued
  deriving DecidableEq, Repr

/-- A part that holds no other part. -/
inductive Atom where
  | literal (literal : Literal)
  | dot (span : Span)
  | anchor (span : Span) (anchor : Anchor)
  | letterClass (span : Span) (negated : Bool) (kind : LetterClass)
  | property (span : Span) (query : PropertyQuery)
  deriving DecidableEq, Repr

/-- The piece of the pattern that an atom is. -/
def Atom.span : Atom → Span
  | literal l => l.span
  | dot s | anchor s _ | letterClass s _ _ | property s _ => s

/-- How two sets of characters are combined. -/
inductive SetOperator where
  | intersection
  | difference
  | symmetricDifference
  deriving DecidableEq, Repr

/-- **What stands between brackets.** -/
inductive Members where
  | nothing (span : Span)
  | literal (literal : Literal)
  | range (span : Span) (low high : Literal)
  | asciiClass (span : Span) (negated : Bool) (kind : AsciiClass)
  | letterClass (span : Span) (negated : Bool) (kind : LetterClass)
  | property (span : Span) (query : PropertyQuery)
  | bracketed (span : Span) (negated : Bool) (inner : Members)
  | union (span : Span) (parts : List Members)
  | combined (span : Span) (operator : SetOperator) (left right : Members)
  deriving Repr

/-- The piece of the pattern that a part of brackets is. -/
def Members.span : Members → Span
  | nothing s | range s _ _ | asciiClass s _ _ | letterClass s _ _ | property s _
  | bracketed s _ _ | union s _ | combined s _ _ _ => s
  | literal l => l.span

/-- How often something is repeated: at least so often, and at most so often if there is a limit. -/
structure Count where
  least : Nat
  most : Option Nat
  deriving DecidableEq, Repr

/-- **A pattern as written.**  A repetition is lazy if a question mark behind it asks for few
repetitions; a group that is remembered has a number. -/
inductive Tree where
  | nothing (span : Span)
  | flags (span : Span) (change : FlagChange)
  | atom (atom : Atom)
  | bracketed (span : Span) (negated : Bool) (inner : Members)
  | repetition (span : Span) (count : Count) (isLazy : Bool) (sub : Tree)
  | group (span : Span) (number : Option Nat) (change : FlagChange) (sub : Tree)
  | choice (span : Span) (branches : List Tree)
  | sequence (span : Span) (parts : List Tree)
  deriving Repr

/-- The piece of the pattern that a part is. -/
def Tree.span : Tree → Span
  | nothing s | flags s _ | bracketed s _ _ | repetition s _ _ _ | group s _ _ _ | choice s _
  | sequence s _ => s
  | atom a => a.span

end Scanout.Pattern
