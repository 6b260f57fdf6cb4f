/-!
# Results of a whole list

`gather` does the same with every item of a list. It succeeds when it succeeds on every item, and
otherwise fails as the first item does that it fails on.
-/

set_option autoImplicit false

namespace ZodValidators

variable {α β γ ε : Type}

/-- The results of all items in order, or the failure of the first item that has one. -/
def gather (build : α → Except ε β) : List α → Except ε (List β)
  | [] => .ok []
  | item :: rest =>
    match build item with
    | .error failure => .error failure
    | .ok result =>
      match gather build rest with
      | .error failure => .error failure
      | .ok results => .ok (result :: results)

theorem gather_eq_ok_iff (build : α → Except ε β) (items : List α) (results : List β) :
    gather build items = .ok results ↔ items.map build = results.map .ok := by
  induction items generalizing results with
  | nil => cases results <;> simp [gather]
  | cons item rest ih =>
      cases built : build item with
      | error failure => cases results <;> simp [gather, built]
      | ok result =>
          cases gathered : gather build rest with
          | error failure =>
              have failing : ∀ others : List β, rest.map build ≠ others.map .ok := by
                intro others same
                have succeeds := (ih others).mpr same
                simp [gathered] at succeeds
              cases results <;> simp [gather, built, gathered, failing]
          | ok others =>
              have same := (ih others).mp gathered
              cases results with
              | nil => simp [gather, built, gathered]
              | cons first following =>
                  simp [gather, built, gathered, same,
                    List.map_inj_right (fun _ _ => Except.ok.inj)]

/-- Gathering fails exactly as an item does behind items that all succeed. -/
theorem gather_eq_error_iff (build : α → Except ε β) (items : List α) (failure : ε) :
    gather build items = .error failure ↔
      ∃ before item behind, items = before ++ item :: behind ∧
        (∀ earlier ∈ before, ∃ result, build earlier = .ok result) ∧
        build item = .error failure := by
  induction items with
  | nil => simp [gather]
  | cons first rest ih =>
      cases built : build first with
      | error found =>
          simp only [gather, built, Except.error.injEq]
          constructor
          · rintro rfl
            exact ⟨[], first, rest, rfl, by simp, built⟩
          · rintro ⟨before, item, behind, split, succeeding, failing⟩
            cases before with
            | nil =>
                simp only [List.nil_append, List.cons.injEq] at split
                rw [← split.1, built] at failing
                exact Except.error.inj failing
            | cons earlier others =>
                simp only [List.cons_append, List.cons.injEq] at split
                obtain ⟨result, succeeded⟩ := succeeding earlier (by simp)
                rw [← split.1, built] at succeeded
                cases succeeded
      | ok result =>
          have passed : gather build (first :: rest) = .error failure ↔
              gather build rest = .error failure := by
            simp only [gather, built]
            cases gather build rest <;> simp
          rw [passed, ih]
          constructor
          · rintro ⟨before, item, behind, rfl, succeeding, failing⟩
            refine ⟨first :: before, item, behind, rfl, ?_, failing⟩
            intro earlier member
            rcases List.mem_cons.mp member with rfl | member
            · exact ⟨result, built⟩
            · exact succeeding earlier member
          · rintro ⟨before, item, behind, split, succeeding, failing⟩
            cases before with
            | nil =>
                simp only [List.nil_append, List.cons.injEq] at split
                rw [← split.1, built] at failing
                cases failing
            | cons earlier others =>
                simp only [List.cons_append, List.cons.injEq] at split
                exact ⟨others, item, behind, split.2,
                  fun one member => succeeding one (List.mem_cons_of_mem _ member), failing⟩

def failureOf? : Except ε α → Option ε
  | .ok _ => none
  | .error failure => some failure

@[simp] theorem failureOf?_ok (result : α) : failureOf? (.ok result : Except ε α) = none := rfl

@[simp] theorem failureOf?_error (failure : ε) :
    failureOf? (.error failure : Except ε α) = some failure := rfl

theorem failureOf?_eq_none_iff {result : Except ε α} :
    failureOf? result = none ↔ ∃ value, result = .ok value := by
  cases result <;> simp

theorem failureOf?_eq_some_iff {result : Except ε α} {failure : ε} :
    failureOf? result = some failure ↔ result = .error failure := by
  cases result <;> simp

@[simp] theorem failureOf?_map (result : Except ε α) (change : α → β) :
    failureOf? (result.map change) = failureOf? result := by
  cases result <;> rfl

theorem map_eq_ok_iff {change : α → β} {result : Except ε α} {value : β} :
    result.map change = .ok value ↔ ∃ cause, result = .ok cause ∧ value = change cause := by
  constructor
  · intro same
    cases result with
    | error failure => cases same
    | ok cause => exact ⟨cause, rfl, (Except.ok.inj same).symm⟩
  · rintro ⟨cause, rfl, rfl⟩
    rfl

theorem map_eq_error_iff {change : α → β} {result : Except ε α} {failure : ε} :
    result.map change = .error failure ↔ result = .error failure := by
  rw [← failureOf?_eq_some_iff, failureOf?_map, failureOf?_eq_some_iff]

theorem bind_eq_ok_iff {next : α → Except ε β} {result : Except ε α} {value : β} :
    result >>= next = .ok value ↔ ∃ first, result = .ok first ∧ next first = .ok value := by
  cases result <;> simp [bind, Except.bind]

theorem bind_eq_error_iff {next : α → Except ε β} {result : Except ε α} {failure : ε} :
    result >>= next = .error failure ↔
      result = .error failure ∨ ∃ first, result = .ok first ∧ next first = .error failure := by
  cases result <;> simp [bind, Except.bind]

theorem mapError_eq_ok_iff {δ : Type} {change : ε → δ} {result : Except ε α} {value : α} :
    result.mapError change = .ok value ↔ result = .ok value := by
  constructor
  · intro same
    cases result with
    | error failure => cases same
    | ok other => exact congrArg Except.ok (Except.ok.inj same)
  · rintro rfl
    rfl

theorem mapError_eq_error_iff {δ : Type} {change : ε → δ} {result : Except ε α} {failure : δ} :
    result.mapError change = .error failure ↔
      ∃ cause, result = .error cause ∧ change cause = failure := by
  constructor
  · intro same
    cases result with
    | error cause => exact ⟨cause, rfl, Except.error.inj same⟩
    | ok value => cases same
  · rintro ⟨cause, rfl, rfl⟩
    rfl

theorem failureOf?_gather (build : α → Except ε β) (items : List α) :
    failureOf? (gather build items) = items.findSome? fun item => failureOf? (build item) := by
  induction items with
  | nil => rfl
  | cons item rest ih =>
      cases built : build item with
      | error failure => simp [gather, built]
      | ok result =>
          rw [List.findSome?_cons, built, failureOf?_ok, ← ih]
          cases gathered : gather build rest <;> simp [gather, built, gathered]

theorem gather_congr {build other : α → Except ε β} {items : List α}
    (same : ∀ item ∈ items, build item = other item) : gather build items = gather other items := by
  induction items with
  | nil => rfl
  | cons item rest ih =>
      have sameRest := ih fun later member => same later (List.mem_cons_of_mem _ member)
      simp only [gather, same item List.mem_cons_self, sameRest]

theorem gather_map (build : β → Except ε γ) (change : α → β) (items : List α) :
    gather build (items.map change) = gather (fun item => build (change item)) items := by
  induction items with
  | nil => rfl
  | cons item rest ih => simp only [List.map_cons, gather, ih]

theorem gather_total (build : α → β) (items : List α) :
    gather (fun item => (.ok (build item) : Except ε β)) items = .ok (items.map build) := by
  rw [gather_eq_ok_iff, List.map_map]
  rfl

theorem gather_mapError_map {δ : Type} (build : α → Except ε β) (cause : ε → δ) (change : β → γ)
    (items : List α) :
    gather (fun item => ((build item).mapError cause).map change) items =
      ((gather build items).mapError cause).map (List.map change) := by
  induction items with
  | nil => rfl
  | cons item rest ih =>
      simp only [gather, ih]
      cases build item with
      | error failure => rfl
      | ok result => cases gather build rest <;> rfl

theorem gather_append (build : α → Except ε β) (items others : List α) :
    gather build (items ++ others) = do
      let results ← gather build items
      let otherResults ← gather build others
      return results ++ otherResults := by
  induction items with
  | nil => cases gathered : gather build others <;> simp [gather, gathered] <;> rfl
  | cons item rest ih =>
      rw [List.cons_append, gather, gather, ih]
      cases built : build item with
      | error failure => rfl
      | ok result =>
          cases gather build rest with
          | error failure => rfl
          | ok results => cases gather build others <;> rfl

end ZodValidators
