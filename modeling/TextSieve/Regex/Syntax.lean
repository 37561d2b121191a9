import TextSieve.Regex.Place

/-!
Patterns as they are written. Every node knows the part of the pattern that it comes from.
-/

namespace TextSieve.Regex

/-- Switches that change the meaning of what follows. -/
inductive Flag where
  | ignoreCase
  | multiLine
  | dotAll
  | swapGreed
  | unicode
  | crlf
  | freeSpacing
  deriving DecidableEq

/-- Flags in the order in which they are written; `none` stands for the minus sign. -/
abbrev Flags := List (Option Flag)

/-- What flags say about one of them: on, off, or nothing. -/
def Flags.stateFrom (on : Bool) (flag : Flag) : Flags → Option Bool
  | [] => none
  | none :: fs => Flags.stateFrom false flag fs
  | some f :: fs => if f = flag then some on else Flags.stateFrom on flag fs

/-- What flags say about one of them: on, off, or nothing. -/
def Flags.state (fs : Flags) (flag : Flag) : Option Bool := Flags.stateFrom true flag fs

/-- A single character; `byte` tells that it is given by two hexadecimal digits. -/
structure Literal where
  span : Span
  char : Char
  byte : Bool

/-- Conditions on a place in the text. -/
inductive Assertion where
  | startLine
  | endLine
  | startText
  | endText
  | wordBoundary
  | notWordBoundary
  | wordStart
  | wordEnd
  | wordStartHalf
  | wordEndHalf
  deriving DecidableEq

/-- Classes with a one-letter escape. -/
inductive ShortClass where
  | digit
  | space
  | word
  deriving DecidableEq

/-- Classes of ASCII characters with a name between colons. -/
inductive AsciiClass where
  | alnum
  | alpha
  | ascii
  | blank
  | cntrl
  | digit
  | graph
  | lower
  | print
  | punct
  | space
  | upper
  | word
  | xdigit
  deriving DecidableEq

/-- Names of properties of characters. -/
inductive PropertyQuery where
  | name (name : Text)
  | value (name value : Text) (unequal : Bool)

/-- Operators between two sets in a class. -/
inductive SetOp where
  | intersection
  | difference
  | symmetricDifference
  deriving DecidableEq

/-- A predefined class. -/
inductive NamedClass where
  | short (span : Span) (kind : ShortClass) (negated : Bool)
  | ascii (span : Span) (kind : AsciiClass) (negated : Bool)
  | property (span : Span) (query : PropertyQuery) (negated : Bool)

/-- What stands in a bracketed class. -/
inductive ClassNode where
  | empty (span : Span)
  | literal (l : Literal)
  | range (span : Span) (first last : Literal)
  | named (c : NamedClass)
  | bracketed (span : Span) (negated : Bool) (body : ClassNode)
  | union (span : Span) (items : List ClassNode)
  | op (span : Span) (kind : SetOp) (lhs rhs : ClassNode)

/-- A pattern. -/
inductive Node where
  | empty (span : Span)
  | flags (span : Span) (flags : Flags)
  | literal (l : Literal)
  | dot (span : Span)
  | assertion (span : Span) (kind : Assertion)
  | named (c : NamedClass)
  | bracketed (span : Span) (negated : Bool) (body : ClassNode)
  | repeated (span : Span) (sub : Node) (min : Nat) (max : Option Nat) (greedy : Bool)
  | capture (span : Span) (sub : Node)
  | group (span : Span) (flags : Flags) (sub : Node)
  | alternation (span : Span) (branches : List Node)
  | concat (span : Span) (parts : List Node)

def NamedClass.span : NamedClass → Span
  | short s _ _ => s
  | ascii s _ _ => s
  | property s _ _ => s

def ClassNode.span : ClassNode → Span
  | empty s => s
  | literal l => l.span
  | range s _ _ => s
  | named c => c.span
  | bracketed s _ _ => s
  | union s _ => s
  | op s _ _ _ => s

def Node.span : Node → Span
  | empty s => s
  | flags s _ => s
  | literal l => l.span
  | dot s => s
  | assertion s _ => s
  | named c => c.span
  | bracketed s _ _ => s
  | repeated s _ _ _ _ => s
  | capture s _ => s
  | group s _ _ => s
  | alternation s _ => s
  | concat s _ => s

/-! ### Names -/

/-- The letters that stand for flags. -/
def Flag.ofChar? : Char → Option Flag
  | 'i' => some .ignoreCase
  | 'm' => some .multiLine
  | 's' => some .dotAll
  | 'U' => some .swapGreed
  | 'u' => some .unicode
  | 'R' => some .crlf
  | 'x' => some .freeSpacing
  | _ => none

/-- The names of the classes of ASCII characters. -/
def AsciiClass.names : List (Text × AsciiClass) :=
  [("alnum", alnum), ("alpha", alpha), ("ascii", ascii), ("blank", blank), ("cntrl", cntrl),
    ("digit", digit), ("graph", graph), ("lower", lower), ("print", print), ("punct", punct),
    ("space", space), ("upper", upper), ("word", word), ("xdigit", xdigit)]

/-- The names of the boundaries of words. -/
def Assertion.boundaryNames : List (Text × Assertion) :=
  [("start", wordStart), ("end", wordEnd), ("start-half", wordStartHalf),
    ("end-half", wordEndHalf)]

end TextSieve.Regex
