/-
A lease that one holder has at a time.

The abstract account of a resource that is granted and given back: whoever was
granted it last has it until giving it back. The account is the specification; an
implementation that checks who may act keeps a field which should agree with it.
-/

set_option autoImplicit false

namespace ExclusiveLease

universe u

variable {E : Type u}

inductive LeaseEvent (E : Type u) where
  | grant (holder : E)
  | giveBack (holder : E)
  | other
deriving DecidableEq, Repr

def LeaseEvent.Spares (holder : E) : LeaseEvent E → Prop
  | .grant _ => False
  | .giveBack leaver => leaver ≠ holder
  | .other => True

/-- The last grant of the history went to this holder, who has not given it back. -/
def HoldsLease (events : List (LeaseEvent E)) (holder : E) : Prop :=
  ∃ before after, events = before ++ .grant holder :: after ∧
    ∀ event, event ∈ after → event.Spares holder

variable [DecidableEq E]

def next (holder : Option E) : LeaseEvent E → Option E
  | .grant granted => some granted
  | .giveBack leaver => if holder = some leaver then none else holder
  | .other => holder

def holderAfter (start : Option E) (events : List (LeaseEvent E)) : Option E :=
  events.foldl next start

private theorem next_eq_some_iff (start : Option E) (event : LeaseEvent E) (holder : E) :
    next start event = some holder ↔
      event = .grant holder ∨ start = some holder ∧ event.Spares holder := by
  cases event with
  | grant granted =>
      simp only [next, Option.some.injEq, LeaseEvent.grant.injEq, LeaseEvent.Spares, and_false,
        or_false]
  | giveBack leaver =>
      simp only [next, reduceCtorEq, LeaseEvent.Spares, false_or]
      by_cases held : start = some leaver
      · rw [if_pos held]
        constructor
        · intro impossible
          cases impossible
        · rintro ⟨same, different⟩
          rw [held] at same
          exact absurd (Option.some.inj same) different
      · rw [if_neg held]
        constructor
        · intro same
          refine ⟨same, ?_⟩
          intro leaves
          rw [leaves] at held
          exact held same
        · rintro ⟨same, _⟩
          exact same
  | other => simp only [next, reduceCtorEq, LeaseEvent.Spares, and_true, false_or]

/-- Starting from a holder, the lease is held by whom the history grants it last, or
by the one who had it if the history spares them. -/
theorem holderAfter_eq_some_iff (start : Option E) (events : List (LeaseEvent E)) (holder : E) :
    holderAfter start events = some holder ↔
      HoldsLease events holder ∨
        start = some holder ∧ ∀ event, event ∈ events → event.Spares holder := by
  induction events generalizing start with
  | nil =>
      constructor
      · intro same
        refine Or.inr ⟨same, ?_⟩
        intro event member
        cases member
      · rintro (⟨before, after, split, _⟩ | ⟨same, _⟩)
        · have impossible := congrArg List.length split
          simp at impossible
        · exact same
  | cons head tail ih =>
      have step := ih (next start head)
      change holderAfter (next start head) tail = some holder ↔ _
      rw [step, next_eq_some_iff]
      constructor
      · rintro (⟨before, after, split, spares⟩ | ⟨granted | ⟨same, headSpares⟩, spares⟩)
        · exact Or.inl ⟨head :: before, after, by rw [split]; rfl, spares⟩
        · exact Or.inl ⟨[], tail, by rw [granted]; rfl, spares⟩
        · refine Or.inr ⟨same, ?_⟩
          intro event member
          rcases List.mem_cons.mp member with first | later
          · rw [first]
            exact headSpares
          · exact spares event later
      · rintro (⟨before, after, split, spares⟩ | ⟨same, spares⟩)
        · cases before with
          | nil =>
              simp only [List.nil_append, List.cons.injEq] at split
              right
              refine ⟨Or.inl split.1, ?_⟩
              rw [split.2]
              exact spares
          | cons first rest =>
              simp only [List.cons_append, List.cons.injEq] at split
              exact Or.inl ⟨rest, after, split.2, spares⟩
        · right
          refine ⟨Or.inr ⟨same, spares head List.mem_cons_self⟩, ?_⟩
          intro event member
          exact spares event (List.mem_cons_of_mem _ member)

theorem holderAfter_none_iff (events : List (LeaseEvent E)) (holder : E) :
    holderAfter none events = some holder ↔ HoldsLease events holder := by
  rw [holderAfter_eq_some_iff]
  constructor
  · rintro (holds | ⟨impossible, _⟩)
    · exact holds
    · cases impossible
  · exact Or.inl

end ExclusiveLease
