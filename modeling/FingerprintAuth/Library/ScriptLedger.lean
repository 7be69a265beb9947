/-
Scripts that stop at their first failure, any number of them open at once.

A ledger follows scripts that are performed piece by piece in an order that nobody
controls: which script is next, and whether its item passes, comes from outside. Each
script has an account: what was performed of it, what is left, and how it ended.
-/

set_option autoImplicit false

namespace FailStop

universe u v

structure OpenScript (ι : Type u) where
  number : Nat
  remaining : List ι

/-- Scripts are numbered in the order in which they begin. -/
structure Ledger (ι : Type u) where
  begun : List (List ι)
  running : List (OpenScript ι)
  performed : List (Nat × ι × Bool)
  ended : List (Nat × Bool)

namespace Ledger

variable {ι : Type u}

def empty : Ledger ι :=
  { begun := []
    running := []
    performed := []
    ended := [] }

def start (ledger : Ledger ι) (items : List ι) : Ledger ι :=
  { ledger with
    begun := ledger.begun ++ [items]
    running := ledger.running ++ [{ number := ledger.begun.length, remaining := items }] }

def finish (ledger : Ledger ι) (index number : Nat) : Ledger ι :=
  { ledger with
    running := ledger.running.eraseIdx index
    ended := ledger.ended ++ [(number, true)] }

def advance (ledger : Ledger ι) (index number : Nat) (item : ι) (rest : List ι) : Ledger ι :=
  { ledger with
    running := ledger.running.set index { number := number, remaining := rest }
    performed := ledger.performed ++ [(number, item, true)] }

def abort (ledger : Ledger ι) (index number : Nat) (item : ι) : Ledger ι :=
  { ledger with
    running := ledger.running.eraseIdx index
    performed := ledger.performed ++ [(number, item, false)]
    ended := ledger.ended ++ [(number, false)] }

def next (ledger : Ledger ι) (index : Nat) (passed : Bool) : Ledger ι :=
  match ledger.running[index]? with
  | none => ledger
  | some script =>
      match script.remaining with
      | [] => ledger.finish index script.number
      | item :: rest =>
          if passed then ledger.advance index script.number item rest
          else ledger.abort index script.number item

/-! ### One script's part of the ledger -/

def entriesOf {β : Type v} (number : Nat) (entries : List (Nat × β)) : List β :=
  entries.filterMap (fun entry => if entry.1 = number then some entry.2 else none)

section Entries

variable {β : Type v}

@[simp]
theorem entriesOf_nil (number : Nat) : entriesOf number ([] : List (Nat × β)) = [] := rfl

theorem entriesOf_append (number : Nat) (first second : List (Nat × β)) :
    entriesOf number (first ++ second) = entriesOf number first ++ entriesOf number second :=
  List.filterMap_append

theorem entriesOf_own (number : Nat) (entries : List (Nat × β)) (entry : β) :
    entriesOf number (entries ++ [(number, entry)]) = entriesOf number entries ++ [entry] := by
  rw [entriesOf_append]
  congr 1
  simp only [entriesOf, List.filterMap_cons, if_true, List.filterMap_nil]

theorem entriesOf_other (number other : Nat) (entries : List (Nat × β)) (entry : β)
    (different : other ≠ number) :
    entriesOf number (entries ++ [(other, entry)]) = entriesOf number entries := by
  rw [entriesOf_append]
  simp only [entriesOf, List.filterMap_cons, if_neg different, List.filterMap_nil,
    List.append_nil]

end Entries

/-- How far a script has come. -/
inductive Account (ledger : Ledger ι) (number : Nat) (items : List ι) : Prop where
  /-- It is open: what was performed of it passed, and the rest is left. -/
  | underway (rest : List ι)
      (listed : { number := number, remaining := rest } ∈ ledger.running)
      (split : items = (entriesOf number ledger.performed).map Prod.fst ++ rest)
      (passed : ∀ entry, entry ∈ entriesOf number ledger.performed → entry.2 = true)
      (unended : entriesOf number ledger.ended = [])
  /-- It was performed to its end, everything passed, and it was told so once. -/
  | succeeded
      (closed : ∀ script, script ∈ ledger.running → script.number ≠ number)
      (whole : items = (entriesOf number ledger.performed).map Prod.fst)
      (passed : ∀ entry, entry ∈ entriesOf number ledger.performed → entry.2 = true)
      (told : entriesOf number ledger.ended = [true])
  /-- It was performed up to an item that failed, nothing after it was, and it was
  told so once. -/
  | failed (before : List (ι × Bool)) (item : ι) (rest : List ι)
      (closed : ∀ script, script ∈ ledger.running → script.number ≠ number)
      (cut : entriesOf number ledger.performed = before ++ [(item, false)])
      (split : items = before.map Prod.fst ++ item :: rest)
      (passed : ∀ entry, entry ∈ before → entry.2 = true)
      (told : entriesOf number ledger.ended = [false])

structure Inv (ledger : Ledger ι) : Prop where
  distinct : ledger.running.Pairwise (fun first second => first.number ≠ second.number)
  numbered : ∀ script, script ∈ ledger.running → script.number < ledger.begun.length
  ahead : ∀ number, ledger.begun.length ≤ number →
    entriesOf number ledger.performed = [] ∧ entriesOf number ledger.ended = []
  accounted : ∀ number items, ledger.begun[number]? = some items → Account ledger number items

theorem empty_inv : (empty : Ledger ι).Inv where
  distinct := List.Pairwise.nil
  numbered := fun _ member => absurd member List.not_mem_nil
  ahead := fun _ _ => ⟨rfl, rfl⟩
  accounted := fun _ _ found => absurd found (by simp [empty])

/-! ### The operations -/

private theorem split_at {α : Type v} {items : List α} {index : Nat} {item : α}
    (found : items[index]? = some item) :
    ∃ before after, items = before ++ item :: after ∧
      items.eraseIdx index = before ++ after ∧
      ∀ other, items.set index other = before ++ other :: after := by
  obtain ⟨inside, rfl⟩ := List.getElem?_eq_some_iff.mp found
  refine ⟨items.take index, items.drop (index + 1), ?_, ?_, ?_⟩
  · rw [List.getElem_cons_drop, List.take_append_drop]
  · exact List.eraseIdx_eq_take_drop_succ items index
  · intro other
    exact List.set_eq_take_append_cons_drop.trans (if_pos inside)

private theorem Account.frame {ledger after : Ledger ι} {number : Nat} {items : List ι}
    (account : Account ledger number items)
    (running : ∀ script : OpenScript ι, script.number = number →
      (script ∈ after.running ↔ script ∈ ledger.running))
    (performed : entriesOf number after.performed = entriesOf number ledger.performed)
    (ended : entriesOf number after.ended = entriesOf number ledger.ended) :
    Account after number items := by
  have closes : (∀ script, script ∈ ledger.running → script.number ≠ number) →
      ∀ script, script ∈ after.running → script.number ≠ number := by
    intro closed script member own
    exact closed script ((running script own).mp member) own
  cases account with
  | underway rest listed split passed unended =>
      refine .underway rest ((running _ rfl).mpr listed) ?_ ?_ (ended.trans unended)
      · rw [performed]
        exact split
      · rw [performed]
        exact passed
  | succeeded closed whole passed told =>
      refine .succeeded (closes closed) ?_ ?_ (ended.trans told)
      · rw [performed]
        exact whole
      · rw [performed]
        exact passed
  | failed before item rest closed cut split passed told =>
      exact .failed before item rest (closes closed) (performed.trans cut) split passed
        (ended.trans told)

theorem start_inv (ledger : Ledger ι) (items : List ι) (inv : ledger.Inv) :
    (ledger.start items).Inv where
  distinct := by
    refine List.pairwise_append.mpr ⟨inv.distinct, List.pairwise_singleton _ _, ?_⟩
    intro script member other new
    rw [List.mem_singleton.mp new]
    exact Nat.ne_of_lt (inv.numbered script member)
  numbered := by
    intro script member
    simp only [start, List.length_append, List.length_singleton]
    rcases List.mem_append.mp member with old | new
    · exact Nat.lt_succ_of_lt (inv.numbered script old)
    · rw [List.mem_singleton.mp new]
      exact Nat.lt_succ_self _
  ahead := by
    intro number beyond
    simp only [start, List.length_append, List.length_singleton] at beyond
    exact inv.ahead number (Nat.le_of_succ_le beyond)
  accounted := by
    intro number listed found
    simp only [start] at found
    by_cases old : number < ledger.begun.length
    · rw [List.getElem?_append_left old] at found
      refine (inv.accounted number listed found).frame ?_ rfl rfl
      intro script own
      simp only [start, List.mem_append, List.mem_singleton]
      refine or_iff_left ?_
      intro new
      rw [new] at own
      exact Nat.ne_of_gt old own
    · have last : number = ledger.begun.length := by
        have inside := (List.getElem?_eq_some_iff.mp found).1
        simp only [List.length_append, List.length_singleton] at inside
        omega
      subst last
      rw [List.getElem?_concat_length] at found
      obtain rfl : items = listed := Option.some.inj found
      have none_yet := inv.ahead ledger.begun.length (Nat.le_refl _)
      have performed : entriesOf ledger.begun.length (ledger.start items).performed = [] :=
        none_yet.1
      refine .underway items (List.mem_append_right _ List.mem_cons_self) ?_ ?_ none_yet.2
      · rw [performed]
        rfl
      · rw [performed]
        intro entry member
        cases member

private structure Place (ledger : Ledger ι) (index number : Nat) (remaining : List ι) : Prop where
  born : number < ledger.begun.length
  distinct : (ledger.running.eraseIdx index).Pairwise
    (fun first second => first.number ≠ second.number)
  different : ∀ other, other ∈ ledger.running.eraseIdx index → other.number ≠ number
  kept : ∀ other, other ∈ ledger.running.eraseIdx index → other ∈ ledger.running
  elsewhere : ∀ other : OpenScript ι, number ≠ other.number →
    (other ∈ ledger.running.eraseIdx index ↔ other ∈ ledger.running)
  replacedDistinct : ∀ rest, (ledger.running.set index
    { number := number, remaining := rest }).Pairwise
      (fun first second => first.number ≠ second.number)
  replaced : ∀ (rest : List ι) other,
    other ∈ ledger.running.set index { number := number, remaining := rest } ↔
      other = { number := number, remaining := rest } ∨ other ∈ ledger.running.eraseIdx index
  account : ∀ items, ledger.begun[number]? = some items →
    items = (entriesOf number ledger.performed).map Prod.fst ++ remaining ∧
      (∀ entry, entry ∈ entriesOf number ledger.performed → entry.2 = true) ∧
      entriesOf number ledger.ended = []

private theorem Inv.place {ledger : Ledger ι} (inv : ledger.Inv) {index number : Nat}
    {remaining : List ι}
    (found : ledger.running[index]? = some { number := number, remaining := remaining }) :
    Place ledger index number remaining := by
  obtain ⟨before, after, running, erased, replaced⟩ := split_at found
  have distinct := inv.distinct
  rw [running, List.pairwise_append, List.pairwise_cons] at distinct
  obtain ⟨beforeDistinct, ⟨afterOther, afterDistinct⟩, across⟩ := distinct
  have member : { number := number, remaining := remaining } ∈ ledger.running := by
    rw [running]
    exact List.mem_append_right _ List.mem_cons_self
  refine
    { born := inv.numbered _ member
      distinct := ?_
      different := ?_
      kept := ?_
      elsewhere := ?_
      replacedDistinct := ?_
      replaced := ?_
      account := ?_ }
  · rw [erased]
    refine List.pairwise_append.mpr ⟨beforeDistinct, afterDistinct, ?_⟩
    intro first earlier other later
    exact across first earlier other (List.mem_cons_of_mem _ later)
  · intro other listed
    rw [erased] at listed
    rcases List.mem_append.mp listed with earlier | later
    · exact across other earlier _ List.mem_cons_self
    · exact (afterOther other later).symm
  · intro other listed
    exact List.mem_of_mem_eraseIdx listed
  · intro other different
    refine ⟨List.mem_of_mem_eraseIdx, ?_⟩
    rw [erased, running]
    intro listed
    rcases List.mem_append.mp listed with earlier | later
    · exact List.mem_append_left _ earlier
    · rcases List.mem_cons.mp later with same | later
      · rw [same] at different
        exact absurd rfl different
      · exact List.mem_append_right _ later
  · intro rest
    rw [replaced]
    refine List.pairwise_append.mpr
      ⟨beforeDistinct, List.pairwise_cons.mpr ⟨afterOther, afterDistinct⟩, ?_⟩
    intro first earlier other later
    rcases List.mem_cons.mp later with same | later
    · rw [same]
      exact across first earlier { number := number, remaining := remaining } List.mem_cons_self
    · exact across first earlier other (List.mem_cons_of_mem _ later)
  · intro rest other
    rw [replaced, erased, List.mem_append, List.mem_cons, List.mem_append]
    exact or_left_comm
  · intro items begun
    cases inv.accounted number items begun with
    | underway rest listed split passed unended =>
        rw [running] at listed
        rcases List.mem_append.mp listed with earlier | later
        · exact absurd rfl (across { number := number, remaining := rest } earlier
            { number := number, remaining := remaining } List.mem_cons_self)
        · rcases List.mem_cons.mp later with same | later
          · cases same
            exact ⟨split, passed, unended⟩
          · exact absurd rfl (afterOther { number := number, remaining := rest } later)
    | succeeded closed whole passed told => exact absurd rfl (closed _ member)
    | failed before item rest closed cut split passed told => exact absurd rfl (closed _ member)

private theorem finish_inv (ledger : Ledger ι) (index number : Nat) (inv : ledger.Inv)
    (place : Place ledger index number []) : (ledger.finish index number).Inv where
  distinct := place.distinct
  numbered := fun other listed => inv.numbered other (place.kept other listed)
  ahead := by
    intro other beyond
    have unknown := inv.ahead other beyond
    have different : number ≠ other := Nat.ne_of_lt (Nat.lt_of_lt_of_le place.born beyond)
    exact ⟨unknown.1, (entriesOf_other other number ledger.ended true different).trans unknown.2⟩
  accounted := by
    intro other items begun
    by_cases own : number = other
    · subst own
      obtain ⟨split, sound, unended⟩ := place.account items begun
      rw [List.append_nil] at split
      refine .succeeded place.different split sound ?_
      simp only [finish]
      rw [entriesOf_own, unended]
      rfl
    · refine (inv.accounted other items begun).frame ?_ rfl
        (entriesOf_other other number ledger.ended true own)
      intro script named
      exact place.elsewhere script (fun same => own (same.trans named))

private theorem advance_inv (ledger : Ledger ι) (index number : Nat) (item : ι) (rest : List ι)
    (inv : ledger.Inv) (place : Place ledger index number (item :: rest)) :
    (ledger.advance index number item rest).Inv where
  distinct := place.replacedDistinct rest
  numbered := by
    intro other listed
    rcases (place.replaced rest other).mp listed with same | old
    · rw [same]
      exact place.born
    · exact inv.numbered other (place.kept other old)
  ahead := by
    intro other beyond
    have unknown := inv.ahead other beyond
    have different : number ≠ other := Nat.ne_of_lt (Nat.lt_of_lt_of_le place.born beyond)
    exact ⟨(entriesOf_other other number ledger.performed (item, true) different).trans unknown.1,
      unknown.2⟩
  accounted := by
    intro other items begun
    by_cases own : number = other
    · subst own
      obtain ⟨split, sound, unended⟩ := place.account items begun
      refine .underway rest ((place.replaced rest _).mpr (Or.inl rfl)) ?_ ?_ unended
      · simp only [advance]
        rw [entriesOf_own, split, List.map_append, List.append_assoc]
        rfl
      · simp only [advance]
        rw [entriesOf_own]
        intro entry present
        rcases List.mem_append.mp present with old | new
        · exact sound entry old
        · rw [List.mem_singleton.mp new]
    · refine (inv.accounted other items begun).frame ?_
        (entriesOf_other other number ledger.performed (item, true) own) rfl
      intro script named
      have different : number ≠ script.number := fun same => own (same.trans named)
      refine (place.replaced rest script).trans ?_
      rw [place.elsewhere script different]
      refine or_iff_right ?_
      intro same
      rw [same] at different
      exact different rfl

private theorem abort_inv (ledger : Ledger ι) (index number : Nat) (item : ι) (rest : List ι)
    (inv : ledger.Inv) (place : Place ledger index number (item :: rest)) :
    (ledger.abort index number item).Inv where
  distinct := place.distinct
  numbered := fun other listed => inv.numbered other (place.kept other listed)
  ahead := by
    intro other beyond
    have unknown := inv.ahead other beyond
    have different : number ≠ other := Nat.ne_of_lt (Nat.lt_of_lt_of_le place.born beyond)
    exact ⟨(entriesOf_other other number ledger.performed (item, false) different).trans unknown.1,
      (entriesOf_other other number ledger.ended false different).trans unknown.2⟩
  accounted := by
    intro other items begun
    by_cases own : number = other
    · subst own
      obtain ⟨split, sound, unended⟩ := place.account items begun
      refine .failed _ item rest place.different (entriesOf_own _ _ _) split sound ?_
      simp only [abort]
      rw [entriesOf_own, unended]
      rfl
    · refine (inv.accounted other items begun).frame ?_
        (entriesOf_other other number ledger.performed (item, false) own)
        (entriesOf_other other number ledger.ended false own)
      intro script named
      exact place.elsewhere script (fun same => own (same.trans named))

theorem next_begun (ledger : Ledger ι) (index : Nat) (passed : Bool) :
    (ledger.next index passed).begun = ledger.begun := by
  unfold next
  split
  · rfl
  · split
    · rfl
    · split <;> rfl

theorem next_inv (ledger : Ledger ι) (index : Nat) (passed : Bool) (inv : ledger.Inv) :
    (ledger.next index passed).Inv := by
  unfold next
  cases found : ledger.running[index]? with
  | none => exact inv
  | some script =>
      obtain ⟨number, remaining⟩ := script
      have place := inv.place found
      cases remaining with
      | nil => exact finish_inv ledger index number inv place
      | cons item rest =>
          cases passed with
          | true => exact advance_inv ledger index number item rest inv place
          | false => exact abort_inv ledger index number item rest inv place

end Ledger

end FailStop
