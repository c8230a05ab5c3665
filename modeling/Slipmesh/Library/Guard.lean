/-! What a validator that succeeds has checked: guards, sequences and loops in `Except`. -/

namespace Slipmesh.Library

variable {ε ε' α β : Type} {error : ε} {a : α} {b : β}

@[simp] theorem bind_ok {x : Except ε α} {next : α → Except ε β} :
    (x >>= next) = .ok b ↔ ∃ a, x = .ok a ∧ next a = .ok b := by
  cases x with
  | error e => simp [bind, Except.bind]
  | ok a => simp [bind, Except.bind]

theorem bind_error {x : Except ε α} {next : α → Except ε β} :
    (x >>= next) = .error error ↔ x = .error error ∨ ∃ a, x = .ok a ∧ next a = .error error := by
  cases x with
  | error e => simp [bind, Except.bind]
  | ok a => simp [bind, Except.bind]

@[simp high] theorem bind_unit_ok {x : Except ε Unit} {next : Unit → Except ε β} :
    (x >>= next) = .ok b ↔ x = .ok () ∧ next () = .ok b := by
  cases x with
  | error e => simp [bind, Except.bind]
  | ok u => simp [bind, Except.bind]

@[simp] theorem exists_unit {p : Unit → Prop} : (∃ u, p u) ↔ p () :=
  ⟨fun ⟨_, holds⟩ => holds, fun holds => ⟨(), holds⟩⟩

@[simp] theorem throw_ok : (throw error : Except ε α) = .ok a ↔ False := by
  simp [throw, throwThe, MonadExceptOf.throw]

@[simp] theorem pure_ok {a' : α} : (pure a : Except ε α) = .ok a' ↔ a = a' := by
  simp [pure, Except.pure]

@[simp] theorem refuse_ok {p : Prop} [Decidable p] {rest : Except ε α} :
    (if p then throw error else rest) = .ok a ↔ ¬ p ∧ rest = .ok a := by
  by_cases holds : p
  · simp [holds]
  · simp [holds]

@[simp] theorem accept_ok {p : Prop} [Decidable p] {rest : Except ε α} :
    (if p then rest else throw error) = .ok a ↔ p ∧ rest = .ok a := by
  by_cases holds : p
  · simp [holds]
  · simp [holds]

@[simp] theorem throw_bind {next : α → Except ε β} : (throw error >>= next) = throw error := rfl

@[simp] theorem mapError_ok {x : Except ε α} {f : ε → ε'} : x.mapError f = .ok a ↔ x = .ok a := by
  cases x with
  | error e => exact ⟨nofun, nofun⟩
  | ok held =>
    change (.ok held : Except ε' α) = .ok a ↔ (.ok held : Except ε α) = .ok a
    rw [Except.ok.injEq, Except.ok.injEq]

@[simp] theorem forM_ok {items : List α} {check : α → Except ε Unit} :
    forM items check = .ok () ↔ ∀ item ∈ items, check item = .ok () := by
  induction items with
  | nil => simp
  | cons item items ih => simp [ih]

/-- One more item in front of items of other keys, all of them apart from the keys seen. -/
theorem distinct_cons {κ : Type} {key : α → κ} {seen : List κ} {item : α} {items : List α} (fresh : key item ∉ seen)
    (nodup : (items.map key).Nodup) (apart : ∀ other ∈ items, key other ∉ key item :: seen) :
    ((item :: items).map key).Nodup ∧ ∀ other ∈ item :: items, key other ∉ seen := by
  simp only [List.mem_cons, not_or] at apart
  simp only [List.map_cons, List.nodup_cons, List.mem_map, not_exists, not_and, List.forall_mem_cons]
  exact ⟨⟨fun other member => (apart other member).1, nodup⟩, fresh, fun other member => (apart other member).2⟩

/-- Items that are checked in order, each against the keys of those before it. -/
theorem distinct_ok {κ : Type} {key : α → κ} {checked : α → Prop} {run : List κ → List α → Except ε Unit}
    (done : ∀ seen, run seen [] = .ok ())
    (next : ∀ seen item rest, run seen (item :: rest) = .ok () ↔
      key item ∉ seen ∧ checked item ∧ run (key item :: seen) rest = .ok ())
    {seen : List κ} {items : List α} :
    run seen items = .ok () ↔
      (items.map key).Nodup ∧ (∀ item ∈ items, key item ∉ seen) ∧ ∀ item ∈ items, checked item := by
  induction items generalizing seen with
  | nil => simp [done]
  | cons item items ih =>
    rw [next, ih]
    constructor
    · intro given
      obtain ⟨fresh, fine, nodup, apart, others⟩ := given
      obtain ⟨distinct, unseen⟩ := distinct_cons fresh nodup apart
      exact ⟨distinct, unseen, List.forall_mem_cons.mpr ⟨fine, others⟩⟩
    · intro given
      obtain ⟨distinct, unseen, checked⟩ := given
      obtain ⟨apart, nodup⟩ := List.nodup_cons.mp distinct
      obtain ⟨fresh, unseen⟩ := List.forall_mem_cons.mp unseen
      obtain ⟨fine, others⟩ := List.forall_mem_cons.mp checked
      refine ⟨fresh, fine, nodup, fun other member => ?_, others⟩
      rw [List.mem_cons, not_or]
      exact ⟨fun same => apart (same ▸ List.mem_map_of_mem member), unseen other member⟩

theorem exists_of_isOk {x : Except ε α} (ok : x.isOk = true) : ∃ a, x = .ok a := by
  cases x with
  | error => cases ok
  | ok a => exact ⟨a, rfl⟩

theorem mapM_cons_ok {item : α} {items : List α} {f : α → Except ε β} {products : List β} :
    (item :: items).mapM f = .ok products ↔
      ∃ first rest, f item = .ok first ∧ items.mapM f = .ok rest ∧ first :: rest = products := by
  simp only [List.mapM_cons, bind_ok, pure_ok]
  constructor
  · intro given
    obtain ⟨first, made, rest, others, same⟩ := given
    exact ⟨first, rest, made, others, same⟩
  · intro given
    obtain ⟨first, rest, made, others, same⟩ := given
    exact ⟨first, made, rest, others, same⟩

/-- A pass that succeeds has made something of every item, and nothing else. -/
theorem mapM_ok {items : List α} {f : α → Except ε β} {products : List β} (ok : items.mapM f = .ok products) :
    (∀ item ∈ items, ∃ product ∈ products, f item = .ok product) ∧
      ∀ product ∈ products, ∃ item ∈ items, f item = .ok product := by
  induction items generalizing products with
  | nil =>
    rw [List.mapM_nil, pure_ok] at ok
    simp [← ok]
  | cons item items ih =>
    obtain ⟨first, rest, made, others, rfl⟩ := mapM_cons_ok.mp ok
    obtain ⟨all, only⟩ := ih others
    simp only [List.mem_cons, forall_eq_or_imp, exists_eq_or_imp]
    exact ⟨⟨.inl made, fun item member => .inr (all item member)⟩, .inl made, fun product member => .inr (only product member)⟩

/-- Two loops that stay related, the second of which succeeds where the first one does. -/
theorem foldlM_related {σ τ : Type} (relate : σ → τ → Prop) {f : σ → α → Except ε σ} {g : τ → α → Except ε' τ} {items : List α}
    (step : ∀ {state other item after}, relate state other → f state item = .ok after →
      ∃ after', g other item = .ok after' ∧ relate after after')
    {state after : σ} {other : τ} (start : relate state other) (ok : items.foldlM f state = .ok after) :
    ∃ after', items.foldlM g other = .ok after' ∧ relate after after' := by
  induction items generalizing state other with
  | nil =>
    cases ok
    exact ⟨other, rfl, start⟩
  | cons item rest ih =>
    rw [List.foldlM_cons, bind_ok] at ok
    obtain ⟨middle, first, ok⟩ := ok
    obtain ⟨middle', first', related⟩ := step start first
    obtain ⟨after', rest', related⟩ := ih related ok
    refine ⟨after', ?_, related⟩
    rw [List.foldlM_cons, bind_ok]
    exact ⟨middle', first', rest'⟩

theorem mapM_total {items : List α} {f : α → Except ε β} (each : ∀ item ∈ items, ∃ product, f item = .ok product) :
    ∃ products, items.mapM f = .ok products := by
  induction items with
  | nil => exact ⟨[], rfl⟩
  | cons item items ih =>
    obtain ⟨⟨first, made⟩, others⟩ := List.forall_mem_cons.mp each
    obtain ⟨rest, passed⟩ := ih others
    exact ⟨first :: rest, mapM_cons_ok.mpr ⟨first, rest, made, passed, rfl⟩⟩

/-- What each product keeps of its item, the products keep of the items. -/
theorem mapM_keeps {γ : Type} {items : List α} {f : α → Except ε β} {products : List β} (ok : items.mapM f = .ok products)
    {p : β → γ} {q : α → γ} (keeps : ∀ item product, f item = .ok product → p product = q item) :
    products.map p = items.map q := by
  induction items generalizing products with
  | nil =>
    rw [List.mapM_nil, pure_ok] at ok
    exact ok ▸ rfl
  | cons item items ih =>
    obtain ⟨first, rest, made, others, rfl⟩ := mapM_cons_ok.mp ok
    rw [List.map_cons, List.map_cons, keeps item first made, ih others]

/-! ### Errors that do not occur -/

/-- Whatever it fails with, it is none of these errors. -/
def Avoids (bad : ε → Prop) (x : Except ε α) : Prop := ∀ error, x = .error error → ¬ bad error

variable {bad : ε → Prop}

@[simp] theorem avoids_pure : Avoids bad (pure a : Except ε α) := nofun

@[simp] theorem avoids_ok : Avoids bad (.ok a : Except ε α) := nofun

@[simp] theorem avoids_error : Avoids bad (.error error : Except ε α) ↔ ¬ bad error := by
  simp [Avoids]

@[simp] theorem avoids_throw : Avoids bad (throw error : Except ε α) ↔ ¬ bad error := avoids_error

theorem avoids_bind {x : Except ε α} {next : α → Except ε β} (first : Avoids bad x)
    (rest : ∀ a, x = .ok a → Avoids bad (next a)) : Avoids bad (x >>= next) := by
  intro error failed
  rcases bind_error.mp failed with here | later
  · exact first error here
  · obtain ⟨a, passed, failed⟩ := later
    exact rest a passed error failed

theorem avoids_refuse {p : Prop} [Decidable p] {rest : Except ε α} (refused : p → ¬ bad error) (fine : Avoids bad rest) :
    Avoids bad (if p then throw error else rest) := by
  by_cases holds : p
  · simpa [holds] using refused holds
  · simpa [holds] using fine

theorem avoids_accept {p : Prop} [Decidable p] {rest : Except ε α} (fine : Avoids bad rest) (refused : ¬ p → ¬ bad error) :
    Avoids bad (if p then rest else throw error) := by
  by_cases holds : p
  · simpa [holds] using fine
  · simpa [holds] using refused holds

theorem avoids_mapError {x : Except ε' α} {f : ε' → ε} (fine : ∀ reason, ¬ bad (f reason)) : Avoids bad (x.mapError f) := by
  intro error failed
  cases x with
  | ok a => cases failed
  | error reason =>
    cases failed
    exact fine reason

theorem avoids_map {x : Except ε α} {f : α → β} (fine : Avoids bad x) : Avoids bad (x.map f) := by
  intro error failed
  cases x with
  | ok a => cases failed
  | error reason =>
    cases failed
    exact fine _ rfl

theorem avoids_elim {value : Option α} (fine : value = none → ¬ bad error) :
    Avoids bad (value.elim (.error error) Except.ok) := by
  cases value with
  | none => exact avoids_error.mpr (fine rfl)
  | some a => exact avoids_ok

theorem avoids_mapM {items : List α} {f : α → Except ε β} (each : ∀ item ∈ items, Avoids bad (f item)) :
    Avoids bad (items.mapM f) := by
  induction items with
  | nil => exact avoids_pure
  | cons item items ih =>
    obtain ⟨first, others⟩ := List.forall_mem_cons.mp each
    rw [List.mapM_cons]
    exact avoids_bind first fun _ _ => avoids_bind (ih others) fun _ _ => avoids_pure

end Slipmesh.Library
