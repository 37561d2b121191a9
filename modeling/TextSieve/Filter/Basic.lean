import TextSieve.Rule.Basic

/-!
Rule sets: named lists of rules, of which any one may accept a text.
-/

namespace TextSieve

/-- Rules under one name, in the order of their document. -/
structure RuleSet where
  name : Text
  rules : List Rule

namespace RuleSet

def size (s : RuleSet) : Nat := s.rules.length

def isEmpty (s : RuleSet) : Bool := s.rules.isEmpty

/-- Some rule accepts the text. -/
def accepts (s : RuleSet) (text : Text) : Bool := s.rules.any (·.accepts text)

/-- The position of the first rule that accepts the text. -/
def firstMatch (s : RuleSet) (text : Text) : Option Nat := s.rules.findIdx? (·.accepts text)

/-- The first rule for each of many texts. -/
def firstMatches (s : RuleSet) (texts : List Text) : List (Option Nat) := texts.map s.firstMatch

/-- The verdict on each of many texts. -/
def acceptsAll (s : RuleSet) (texts : List Text) : List Bool := texts.map s.accepts

end RuleSet

/-- What a rule set says about one text: the position of the first rule that accepts it. -/
structure Outcome where
  input : Text
  rule : Option Nat
  deriving DecidableEq

/-- Some rule accepted the text. -/
def Outcome.matched (o : Outcome) : Bool := o.rule.isSome

/-- The outcome for each of many texts, in their order. -/
def RuleSet.evaluate (s : RuleSet) (texts : List Text) : List Outcome :=
  (texts.zip (s.firstMatches texts)).map fun p => ⟨p.1, p.2⟩

end TextSieve
