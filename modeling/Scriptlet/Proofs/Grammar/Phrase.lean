import Scriptlet.Token.Basic

/-! Phrases: which tokens mean what, and how phrases are put together. -/

namespace Scriptlet

/-- Which tokens form a phrase, what the phrase means, and how deep it nests. -/
abbrev Phrase (α : Type) :=
  List Token → α → Nat → Prop

namespace Phrase

variable {α β : Type}

/-- The phrase without tokens. -/
inductive Empty (a : α) : Phrase α where
  | intro : Empty a [] a 0

/-- A token of a given kind, which means nothing more. -/
inductive Mark (kind : TokenKind) : Phrase Unit where
  | intro {token : Token} (same : token.kind = kind) : Mark kind [token] () 0

/-- An identifier, which means its name. -/
inductive Named : Phrase String where
  | intro {token : Token} {name : String} (kind : token.kind = .identifier)
      (value : token.value = .text name) : Named [token] name 0

/-- One particular token, with a meaning of its own. -/
inductive Just (token : Token) (a : α) : Phrase α where
  | intro : Just token a [token] a 0

/-- A phrase in front of another one, whose sort may depend on what the first one means. -/
inductive Then (first : Phrase α) (second : α → Phrase β) : Phrase β where
  | intro {front back : List Token} {a : α} {b : β} {n m : Nat} (head : first front a n)
      (tail : second a back b m) : Then first second (front ++ back) b (max n m)

/-- A token of a given kind and a phrase behind it, or a phrase of another sort. -/
inductive Optional (kind : TokenKind) (taken passed : Phrase α) : Phrase α where
  | taken {token : Token} {tokens : List Token} {a : α} {n : Nat} (same : token.kind = kind)
      (more : taken tokens a n) : Optional kind taken passed (token :: tokens) a n
  | passed {tokens : List Token} {a : α} {n : Nat} (more : passed tokens a n) :
      Optional kind taken passed tokens a n

/-- A phrase one level deeper. -/
inductive Deeper (phrase : Phrase α) : Phrase α where
  | intro {tokens : List Token} {a : α} {n : Nat} (inner : phrase tokens a n) :
      Deeper phrase tokens a (n + 1)

section Opened

variable {second : α → Phrase β} {tokens : List Token} {b : β} {n : Nat}

/-- The parts of two phrases in a row. -/
theorem then_iff {first : Phrase α} :
    Then first second tokens b n ↔ ∃ front back a k m,
      tokens = front ++ back ∧ n = max k m ∧ first front a k ∧ second a back b m := by
  -- There is one way to put two phrases in a row.
  constructor
  · intro whole
    obtain ⟨head, tail⟩ := whole
    exact ⟨_, _, _, _, _, rfl, rfl, head, tail⟩
  · intro parts
    obtain ⟨front, back, a, k, m, rfl, rfl, head, tail⟩ := parts
    exact .intro head tail

/-- A known token in front is the first of both. -/
theorem just_then (token : Token) (a : α) :
    Then (Just token a) second tokens b n ↔
      ∃ back, tokens = token :: back ∧ second a back b n := by
  -- The one token is all of the first phrase, and adds nothing to the nesting.
  constructor
  · intro whole
    obtain ⟨⟨⟩, tail⟩ := whole
    exact ⟨_, rfl, by simpa using tail⟩
  · intro opened
    obtain ⟨back, rfl, tail⟩ := opened
    simpa using Then.intro (.intro : Just token a [token] a 0) tail

/-- A mark in front is the first of both. -/
theorem mark_then (kind : TokenKind) {second : Unit → Phrase β} :
    Then (Mark kind) second tokens b n ↔
      ∃ token back, token.kind = kind ∧ tokens = token :: back ∧ second () back b n := by
  -- A mark is one token, and adds nothing to the nesting.
  constructor
  · intro whole
    obtain ⟨⟨same⟩, tail⟩ := whole
    exact ⟨_, _, same, rfl, by simpa using tail⟩
  · intro opened
    obtain ⟨token, back, same, rfl, tail⟩ := opened
    simpa using Then.intro (.intro same : Mark kind [token] () 0) tail

/-- A name in front is the first of both. -/
theorem named_then {second : String → Phrase β} :
    Then Named second tokens b n ↔
      ∃ token name back, token.kind = .identifier ∧ token.value = .text name ∧
        tokens = token :: back ∧ second name back b n := by
  -- A name is one token, and adds nothing to the nesting.
  constructor
  · intro whole
    obtain ⟨⟨kind, value⟩, tail⟩ := whole
    exact ⟨_, _, _, kind, value, rfl, by simpa using tail⟩
  · intro opened
    obtain ⟨token, name, back, kind, value, rfl, tail⟩ := opened
    simpa using Then.intro (.intro kind value : Named [token] name 0) tail

/-- Behind a phrase nothing need stand for its meaning to be used. -/
theorem then_empty {first : Phrase α} (f : α → β) :
    Then first (fun a => Empty (f a)) tokens b n ↔ ∃ a, first tokens a n ∧ b = f a := by
  -- The second phrase is empty, so that the tokens and the nesting are those of the first.
  constructor
  · intro whole
    obtain ⟨head, ⟨⟩⟩ := whole
    exact ⟨_, by simpa using head, rfl⟩
  · intro opened
    obtain ⟨a, head, rfl⟩ := opened
    have whole : Then first (fun a => Empty (f a)) (tokens ++ []) (f a) (max n 0) :=
      .intro head .intro
    simpa using whole

/-- A phrase without tokens has the one meaning. -/
theorem empty_iff (a : α) {c : α} : Empty a tokens c n ↔ tokens = [] ∧ c = a ∧ n = 0 := by
  -- There is one way to read nothing.
  constructor
  · intro whole
    cases whole
    exact ⟨rfl, rfl, rfl⟩
  · intro opened
    obtain ⟨rfl, rfl, rfl⟩ := opened
    exact .intro

end Opened

/-- There is a phrase of this sort at all. -/
class Productive (phrase : Phrase α) : Prop where
  inhabited : ∃ tokens a n, phrase tokens a n

instance (a : α) : (Empty a).Productive where
  inhabited := ⟨_, _, _, .intro⟩

instance (kind : TokenKind) : (Mark kind).Productive where
  inhabited := ⟨_, _, _, .intro (rfl : (Token.fixed kind 1).kind = kind)⟩

instance : Named.Productive where
  inhabited := ⟨[⟨.identifier, .text "x", 1⟩], _, _, .intro rfl rfl⟩

instance (token : Token) (a : α) : (Just token a).Productive where
  inhabited := ⟨_, _, _, .intro⟩

instance {first : Phrase α} {second : α → Phrase β} [head : first.Productive]
    [tail : ∀ a, (second a).Productive] : (Then first second).Productive where
  inhabited := by
    obtain ⟨front, a, n, head⟩ := head.inhabited
    obtain ⟨back, b, m, tail⟩ := (tail a).inhabited
    exact ⟨front ++ back, b, max n m, .intro head tail⟩

instance {kind : TokenKind} {taken passed : Phrase α} [other : passed.Productive] :
    (Optional kind taken passed).Productive where
  inhabited := by
    obtain ⟨tokens, a, n, whole⟩ := other.inhabited
    exact ⟨tokens, a, n, .passed whole⟩

instance {phrase : Phrase α} [inside : phrase.Productive] : (Deeper phrase).Productive where
  inhabited := by
    obtain ⟨tokens, a, n, whole⟩ := inside.inhabited
    exact ⟨tokens, a, n + 1, .intro whole⟩

/-- Some phrase of this sort begins with these tokens. -/
def Viable (phrase : Phrase α) (front : List Token) : Prop :=
  ∃ back a n, phrase (front ++ back) a n

/-- What begins a phrase begins two phrases in a row, if there is a second one for each first. -/
theorem Viable.then {first : Phrase α} {second : α → Phrase β} {front : List Token}
    (viable : first.Viable front) [later : ∀ a, (second a).Productive] :
    (Then first second).Viable front := by
  -- The first phrase is completed, and any second one follows.
  obtain ⟨back, a, n, head⟩ := viable
  obtain ⟨tokens, b, m, tail⟩ := (later a).inhabited
  exact ⟨back ++ tokens, b, max n m, List.append_assoc front back tokens ▸ .intro head tail⟩

/-- Behind a first phrase, what begins the second one begins both in a row. -/
theorem Viable.behind {first : Phrase α} {second : α → Phrase β} {front back : List Token} {a : α}
    {n : Nat} (head : first front a n) (viable : (second a).Viable back) :
    (Then first second).Viable (front ++ back) := by
  -- The second phrase is completed behind the first.
  obtain ⟨more, b, m, tail⟩ := viable
  exact ⟨more, b, max n m, List.append_assoc front back more ▸ .intro head tail⟩

/-- A sort of phrases that holds another one has all its beginnings. -/
theorem Viable.mono {phrase wider : Phrase α} {front : List Token} (viable : phrase.Viable front)
    (sound : ∀ tokens a n, phrase tokens a n → wider tokens a n) : wider.Viable front := by
  -- The completed phrase is one of the wider sort.
  obtain ⟨back, a, n, whole⟩ := viable
  exact ⟨back, a, n, sound _ _ _ whole⟩

end Phrase

end Scriptlet
