import Scriptlet.Tree.Basic

/-! Equality of trees is decided by walking them side by side. -/

namespace Scriptlet

mutual

/-- The expressions have the same form and the same leaves. -/
def Expr.same : Expr → Expr → Bool
  | .identifier a, .identifier b => a == b
  | .number a, .number b => a == b
  | .string a, .string b => a == b
  | .boolean a, .boolean b => a == b
  | .unary o a, .unary p b => o == p && a.same b
  | .binary o a c, .binary p b d => o == p && a.same b && c.same d
  | .call f as, .call g bs => f == g && Expr.sameAll as bs
  | _, _ => false

/-- The lists have the same expressions. -/
def Expr.sameAll : List Expr → List Expr → Bool
  | [], [] => true
  | a :: as, b :: bs => a.same b && Expr.sameAll as bs
  | _, _ => false

end

mutual

/-- Expressions are the same exactly if they are equal. -/
theorem Expr.same_iff_eq : ∀ a b : Expr, a.same b = true ↔ a = b
  -- By induction on the first expression; a second one of another form
  -- is neither the same nor equal.
  | .identifier _, b => by cases b <;> simp [Expr.same]
  | .number _, b => by cases b <;> simp [Expr.same]
  | .string _, b => by cases b <;> simp [Expr.same]
  | .boolean _, b => by cases b <;> simp [Expr.same]
  | .unary _ a, b => by cases b <;> simp [Expr.same, Expr.same_iff_eq a]
  | .binary _ a c, b => by
    cases b <;> simp [Expr.same, Expr.same_iff_eq a, Expr.same_iff_eq c, and_assoc]
  | .call _ as, b => by cases b <;> simp [Expr.same, Expr.sameAll_iff_eq as]

/-- Lists of expressions are the same exactly if they are equal. -/
theorem Expr.sameAll_iff_eq : ∀ as bs : List Expr, Expr.sameAll as bs = true ↔ as = bs
  -- The induction goes on through the arguments of a call.
  | [], bs => by cases bs <;> simp [Expr.sameAll]
  | a :: as, bs => by
    cases bs <;> simp [Expr.sameAll, Expr.same_iff_eq a, Expr.sameAll_iff_eq as]

end

instance : DecidableEq Expr := fun a b => decidable_of_iff _ (Expr.same_iff_eq a b)

mutual

/-- The items have the same form, the same lines and the same leaves. -/
def Item.same : Item → Item → Bool
  | .ifThen l c as, .ifThen m d bs => l == m && decide (c = d) && Item.sameAll as bs
  | .ifThenElse l c as es, .ifThenElse m d bs fs =>
    l == m && decide (c = d) && Item.sameAll as bs && Item.sameAll es fs
  | .assignment l x c, .assignment m y d => l == m && x == y && decide (c = d)
  | .returned l c, .returned m d => l == m && decide (c = d)
  | .declaration l x c, .declaration m y d => l == m && x == y && decide (c = d)
  | .expression l c, .expression m d => l == m && decide (c = d)
  | .function l x ps as, .function m y qs bs =>
    l == m && x == y && ps == qs && Item.sameAll as bs
  | _, _ => false

/-- The lists have the same items. -/
def Item.sameAll : List Item → List Item → Bool
  | [], [] => true
  | a :: as, b :: bs => a.same b && Item.sameAll as bs
  | _, _ => false

end

mutual

/-- Items are the same exactly if they are equal. -/
theorem Item.same_iff_eq : ∀ a b : Item, a.same b = true ↔ a = b
  -- By induction on the first item; only its blocks need the hypothesis.
  | .ifThen _ _ as, b => by
    cases b <;> simp [Item.same, Item.sameAll_iff_eq as, and_assoc]
  | .ifThenElse _ _ as es, b => by
    cases b <;> simp [Item.same, Item.sameAll_iff_eq as, Item.sameAll_iff_eq es, and_assoc]
  | .assignment _ _ _, b => by cases b <;> simp [Item.same, and_assoc]
  | .returned _ _, b => by cases b <;> simp [Item.same]
  | .declaration _ _ _, b => by cases b <;> simp [Item.same, and_assoc]
  | .expression _ _, b => by cases b <;> simp [Item.same]
  | .function _ _ _ as, b => by
    cases b <;> simp [Item.same, Item.sameAll_iff_eq as, and_assoc]

/-- Lists of items are the same exactly if they are equal. -/
theorem Item.sameAll_iff_eq : ∀ as bs : List Item, Item.sameAll as bs = true ↔ as = bs
  -- The induction goes on through the items of a block.
  | [], bs => by cases bs <;> simp [Item.sameAll]
  | a :: as, bs => by
    cases bs <;> simp [Item.sameAll, Item.same_iff_eq a, Item.sameAll_iff_eq as]

end

instance : DecidableEq Item := fun a b => decidable_of_iff _ (Item.same_iff_eq a b)

deriving instance DecidableEq for Program

end Scriptlet
