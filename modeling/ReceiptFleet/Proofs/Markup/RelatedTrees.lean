import ReceiptFleet.Proofs.Markup.Places
import ReceiptFleet.Proofs.Markup.TextRoles

/-!
Related trees. Two trees under construction that differ only in what the innermost open element holds so
far take up the same tokens alike. So a relation between lists of nodes that stays when more nodes come
and when an element is put around them holds between the children of the two roots at the end. What is
asked of a list of nodes may depend on its role.
-/

namespace ReceiptFleet.Markup

theorem Role.inside_ne_top (name : String) (role : Role)
    : role.inside name ≠ .top := by
  fun_cases Role.inside name role <;> simp

namespace Xml

/-- The role of the children of the innermost of some open elements. -/
def roleOf : List OpenElement → Role
  | [] => .top
  | e :: outer => (roleOf outer).inside e.name.localPart

theorem roleOf_ne_top (e : OpenElement) (outer : List OpenElement)
    : roleOf (e :: outer) ≠ .top :=
  Role.inside_ne_top _ _

/-- A relation between the nodes of a role, as they were read in two ways, that goes on through what is
read behind them and around them. -/
structure Carried (R : Role → List Node → List Node → Prop) : Prop where
  behind {role : Role} {xs ys : List Node} (node : Node) (related : R role xs ys)
    : R role (xs ++ [node]) (ys ++ [node])
  around {role : Role} {name : String} {xs ys : List Node} (before : List Node)
    (attributes : Keyed String) (among : role ≠ .top) (related : R (role.inside name) xs ys)
    : R role (before ++ [.element name attributes xs]) (before ++ [.element name attributes ys])

variable {R : Role → List Node → List Node → Prop} {stack stack' : List OpenElement}

/-- Open elements that are the same but for the children of one of them, which are related. -/
inductive RelatedStacks (R : Role → List Node → List Node → Prop)
    : List OpenElement → List OpenElement → Prop where
  | here {e : OpenElement} {outer : List OpenElement} {xs ys : List Node}
    (related : R (roleOf (e :: outer)) xs.reverse ys.reverse)
    : RelatedStacks R ({ e with children := xs } :: outer) ({ e with children := ys } :: outer)
  | above (e : OpenElement) {stack stack' : List OpenElement} (related : RelatedStacks R stack stack')
    : RelatedStacks R (e :: stack) (e :: stack')

/-- Trees under construction that are the same but for related children of one element, which is open
or is the finished root. -/
inductive Related (R : Role → List Node → List Node → Prop) : Builder → Builder → Prop where
  | during {stack stack' : List OpenElement} {text : List Char} {root : Option Node}
    (related : RelatedStacks R stack stack')
    : Related R ⟨stack, text, root⟩ ⟨stack', text, root⟩
  | done {name : String} {attributes : Keyed String} {xs ys : List Node} {text : List Char}
    (related : R (Role.top.inside name) xs ys)
    : Related R ⟨[], text, some (.element name attributes xs)⟩
        ⟨[], text, some (.element name attributes ys)⟩

theorem RelatedStacks.ne_nil (related : RelatedStacks R stack stack')
    : stack ≠ [] := by
  cases related <;> nofun

theorem RelatedStacks.scope_eq {text : List Char} {root : Option Node}
    (related : RelatedStacks R stack stack')
    : Builder.scope ⟨stack, text, root⟩ = Builder.scope ⟨stack', text, root⟩ := by
  cases related <;> rfl

theorem opened?_congr {b b' : Builder} (same : b.scope = b'.scope) (name : Name)
    (attributes : List Attribute)
    : b.opened? name attributes = b'.opened? name attributes := by
  simp only [Builder.opened?, same]

/-- Related elements take up one more node. -/
theorem RelatedStacks.add (carried : Carried R) (related : RelatedStacks R stack stack')
    (text : List Char) (root : Option Node) (node : Node)
    : ∃ next next',
        Builder.add ⟨stack, text, root⟩ node = ⟨next, text, root⟩
        ∧ Builder.add ⟨stack', text, root⟩ node = ⟨next', text, root⟩
        ∧ RelatedStacks R next next' := by
  cases related with
  | @here e outer xs ys related =>
      have more := carried.behind node related
      rw [← List.reverse_cons, ← List.reverse_cons] at more
      exact ⟨_, _, rfl, rfl, .here more⟩
  | above e related => exact ⟨_, _, rfl, rfl, .above { e with children := node :: e.children } related⟩

theorem RelatedStacks.flush (carried : Carried R) (related : RelatedStacks R stack stack')
    (text : List Char) (root : Option Node)
    : ∃ next next',
        Builder.flush ⟨stack, text, root⟩ = ⟨next, [], root⟩
        ∧ Builder.flush ⟨stack', text, root⟩ = ⟨next', [], root⟩
        ∧ RelatedStacks R next next' := by
  cases blank : Text.isAllBlank text with
  | true =>
      exact ⟨stack, stack', by simp [Builder.flush, blank], by simp [Builder.flush, blank], related⟩
  | false =>
      obtain ⟨next, next', added, added', further⟩ :=
        related.add carried [] root (.text (String.ofList text))
      exact ⟨next, next', by simp [Builder.flush, blank, added], by simp [Builder.flush, blank, added'],
        further⟩

/-- An element that ends passes on the relation to the nodes around it, or to the root. -/
theorem RelatedStacks.close {e e' : OpenElement} {outer outer' : List OpenElement}
    (carried : Carried R) (related : RelatedStacks R (e :: outer) (e' :: outer')) (text : List Char)
    (root : Option Node)
    : e.name = e'.name
      ∧ Related R (Builder.add ⟨outer, text, root⟩ e.node)
          (Builder.add ⟨outer', text, root⟩ e'.node) := by
  cases related with
  | @here e _ xs ys related =>
      refine ⟨rfl, ?_⟩
      cases outer with
      | nil => exact .done related
      | cons o outer =>
          refine .during (.here (e := o) ?_)
          rw [List.reverse_cons, List.reverse_cons]
          exact carried.around o.children.reverse e.attributes (roleOf_ne_top o outer) related
  | above e related =>
      obtain ⟨next, next', added, added', further⟩ := related.add carried text root e.node
      rw [added, added']
      exact ⟨rfl, .during further⟩

/-- A token is taken up alike by related trees whose elements are open. The cases are the kinds of
token. -/
theorem RelatedStacks.step? {text : List Char} {root : Option Node} {token : Token} {after : Builder}
    (carried : Carried R) (related : RelatedStacks R stack stack')
    (read : Builder.step? ⟨stack, text, root⟩ token = some after)
    : ∃ after', Builder.step? ⟨stack', text, root⟩ token = some after' ∧ Related R after after' := by
  obtain ⟨next, next', flushed, flushed', further⟩ := related.flush carried text root
  cases token with
  | text content =>
      cases read
      exact ⟨_, rfl, .during related⟩
  | aside =>
      cases read
      exact ⟨_, rfl, by rw [flushed, flushed']; exact .during further⟩
  | openTag name attributes =>
      obtain ⟨e, opening, same⟩ := Option.bind_eq_some_iff.mp read
      cases same
      rw [flushed, opened?_congr further.scope_eq] at opening
      simp only [Builder.step?, flushed, flushed', opening]
      exact ⟨_, rfl, .during (.above e further)⟩
  | emptyTag name attributes =>
      obtain ⟨e, opening, same⟩ := Option.bind_eq_some_iff.mp read
      cases same
      rw [flushed, opened?_congr further.scope_eq] at opening
      obtain ⟨last, last', added, added', final⟩ := further.add carried [] root e.node
      simp only [Builder.step?, flushed, flushed', opening]
      refine ⟨_, rfl, ?_⟩
      rw [added, added']
      exact .during final
  | cutTag name attributes =>
      obtain ⟨declared, found, same⟩ := Option.bind_eq_some_iff.mp read
      cases same
      simp only [Builder.step?, flushed, flushed', found]
      exact ⟨_, rfl, .during further⟩
  | closeTag name =>
      simp only [Builder.step?, flushed, flushed'] at read ⊢
      cases next with
      | nil => cases read
      | cons e outer =>
          cases next' with
          | nil => cases further
          | cons e' outer' =>
              obtain ⟨named, closed⟩ := further.close carried [] root
              obtain ⟨same, added⟩ := Option.ite_none_right_eq_some.mp read
              cases added
              exact ⟨_, if_pos (named ▸ same), closed⟩

-----------------------------------------------------------------------------------------
-- Whole runs
-----------------------------------------------------------------------------------------

namespace Builder

theorem length_add (b : Builder) (node : Node)
    : (b.add node).stack.length = b.stack.length := by
  obtain ⟨stack, text, root⟩ := b
  cases stack <;> rfl

theorem length_flush (b : Builder)
    : b.flush.stack.length = b.stack.length := by
  rw [flush]
  split
  · rfl
  · exact length_add _ _

/-- As many elements are open as the tokens say. -/
theorem length_of_step? {b after : Builder} {token : Token} (uncut : ¬ token.IsCut)
    (read : b.step? token = some after)
    : after.stack.length = token.depth b.stack.length := by
  cases token with
  | text content =>
      cases read
      rfl
  | aside =>
      cases read
      exact length_flush b
  | openTag name attributes =>
      obtain ⟨_, _, same⟩ := Option.bind_eq_some_iff.mp read
      cases same
      exact congrArg (· + 1) (length_flush b)
  | emptyTag name attributes =>
      obtain ⟨_, _, same⟩ := Option.bind_eq_some_iff.mp read
      cases same
      exact (length_add _ _).trans (length_flush b)
  | cutTag name attributes => exact absurd trivial uncut
  | closeTag name =>
      simp only [Builder.step?] at read
      split at read
      case h_1 inner outer stack =>
        obtain ⟨_, same⟩ := Option.ite_none_right_eq_some.mp read
        cases same
        rw [length_add, Token.depth, ← length_flush b, stack]
        rfl
      case h_2 => cases read

end Builder

/-- At a place in a document as many elements are open in the tree as it says. -/
theorem Inside.length_eq {xml left : List Char} {tokens : List Token} {depth : Nat} {b : Builder}
    (inside : Inside xml tokens depth left) (run : tokens.foldlM Builder.step? {} = some b)
    : b.stack.length = depth := by
  induction inside generalizing b with
  | start begins opens =>
      obtain ⟨next, stepped, same⟩ := Option.bind_eq_some_iff.mp run
      cases same
      exact Builder.length_of_step? id stepped
  | next inside among uncut read ih =>
      rw [List.foldlM_append] at run
      obtain ⟨before, earlier, last⟩ := Option.bind_eq_some_iff.mp run
      obtain ⟨next, stepped, same⟩ := Option.bind_eq_some_iff.mp last
      cases same
      rw [Builder.length_of_step? uncut stepped, ih earlier]

/-- Related trees are related still when the tokens have closed all elements: then it is the roots whose
children are related. The induction is over the tokens. -/
theorem Related.run {b b' done : Builder} {tokens : List Token} {depth : Nat} (carried : Carried R)
    (closes : Closes depth tokens) (related : Related R b b') (opened : b.stack.length = depth)
    (run : tokens.foldlM Builder.step? b = some done)
    : ∃ done' name attributes xs ys,
        tokens.foldlM Builder.step? b' = some done'
        ∧ done.root = some (.element name attributes xs)
        ∧ done'.root = some (.element name attributes ys)
        ∧ R (Role.top.inside name) xs ys := by
  induction closes generalizing b b' with
  | nil =>
      cases run
      cases related with
      | during related => exact absurd (List.length_eq_zero_iff.mp opened) related.ne_nil
      | done related => exact ⟨_, _, _, _, _, rfl, rfl, rfl, related⟩
  | next among uncut further ih =>
      cases related with
      | during related =>
          rw [List.foldlM_cons] at run
          obtain ⟨next, stepped, later⟩ := Option.bind_eq_some_iff.mp run
          obtain ⟨next', stepped', still⟩ := related.step? carried stepped
          rw [List.foldlM_cons, stepped']
          refine ih still ?_ later
          rw [Builder.length_of_step? uncut stepped, opened]
      | done related => exact absurd opened.symm among

end Xml

end ReceiptFleet.Markup
