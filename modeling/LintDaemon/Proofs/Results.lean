import Mathlib.Data.List.Forall2

/-!
# Results

What steps that may fail come to, one after the other.

* `Result.bind_eq_ok_iff`: two steps succeed exactly if both do.
* `Result.exists_mapM_eq_ok_iff`: a list of steps succeeds exactly if each of them does.
* `Result.mapM_eq_ok_iff`: what a list of steps gives is what each of them gives.
-/

namespace LintDaemon.Result

universe u v

variable {ε α β γ : Type u}

/-- Two steps succeed exactly if both do. -/
theorem bind_eq_ok_iff {x : Except ε β} {f : β → Except ε γ} {c : γ} :
    x >>= f = .ok c ↔ ∃ b, x = .ok b ∧ f b = .ok c := by
  cases x with
  | error e => simp [bind, Except.bind]
  | ok b => simp [bind, Except.bind]

/-- A step that succeeds is followed by another one. -/
theorem exists_bind_eq_ok {x : Except ε β} {f : β → Except ε γ} {b : β} (h : x = .ok b)
    (hf : ∃ c, f b = .ok c) : ∃ c, x >>= f = .ok c := by
  obtain ⟨c, hc⟩ := hf
  exact ⟨c, bind_eq_ok_iff.mpr ⟨b, h, hc⟩⟩

/-- What a list of steps gives is what each of them gives. -/
theorem mapM_eq_ok_iff {f : α → Except ε β} {l : List α} {bs : List β} :
    l.mapM f = .ok bs ↔ List.Forall₂ (fun a b => f a = .ok b) l bs := by
  induction l generalizing bs with
  | nil =>
    rw [List.mapM_nil, List.forall₂_nil_left_iff]
    exact ⟨fun h => by cases h; rfl, fun h => h ▸ rfl⟩
  | cons a rest ih =>
    rw [List.mapM_cons, List.forall₂_cons_left_iff, bind_eq_ok_iff]
    constructor
    · rintro ⟨b, hb, hrest⟩
      obtain ⟨bs', hbs', heq⟩ := bind_eq_ok_iff.mp hrest
      cases heq
      exact ⟨b, bs', hb, ih.mp hbs', rfl⟩
    · rintro ⟨b, bs', hb, hbs', rfl⟩
      exact ⟨b, hb, bind_eq_ok_iff.mpr ⟨bs', ih.mpr hbs', rfl⟩⟩

/-- A list of steps succeeds exactly if each of them does. -/
theorem exists_mapM_eq_ok_iff {f : α → Except ε β} {l : List α} :
    (∃ bs, l.mapM f = .ok bs) ↔ ∀ a ∈ l, ∃ b, f a = .ok b := by
  induction l with
  | nil => exact iff_of_true ⟨[], rfl⟩ fun _ ha => absurd ha List.not_mem_nil
  | cons a rest ih =>
    simp only [mapM_eq_ok_iff, List.forall₂_cons_left_iff] at ih ⊢
    rw [List.forall_mem_cons, ← ih]
    constructor
    · rintro ⟨_, b, bs, hb, hbs, rfl⟩
      exact ⟨⟨b, hb⟩, bs, hbs⟩
    · rintro ⟨⟨b, hb⟩, bs, hbs⟩
      exact ⟨b :: bs, b, bs, hb, hbs, rfl⟩

/-- A list of steps succeeds if each of them does. -/
theorem exists_mapM_eq_ok {f : α → Except ε β} {l : List α} (h : ∀ a ∈ l, ∃ b, f a = .ok b) :
    ∃ bs, l.mapM f = .ok bs :=
  exists_mapM_eq_ok_iff.mpr h

/-- What a result that is worked on gives. -/
theorem map_eq_ok_iff {x : Except ε β} {f : β → γ} {c : γ} :
    x.map f = .ok c ↔ ∃ b, x = .ok b ∧ f b = c := by
  cases x with
  | error e => simp [Except.map]
  | ok b => simp [Except.map]

/-- A result that is worked on is there exactly if it was there before. -/
theorem exists_map_eq_ok_iff {x : Except ε β} {f : β → γ} :
    (∃ c, x.map f = .ok c) ↔ ∃ b, x = .ok b := by
  simp only [map_eq_ok_iff]
  exact ⟨fun ⟨_, b, hb, _⟩ => ⟨b, hb⟩, fun ⟨b, hb⟩ => ⟨f b, b, hb, rfl⟩⟩

/-- A result whose error is worked on is what it was before. -/
theorem mapError_eq_ok_iff {ε' : Type v} {x : Except ε β} {f : ε → ε'} {b : β} :
    x.mapError f = .ok b ↔ x = .ok b := by
  cases x with
  | error e => simp [Except.mapError]
  | ok b' => simp [Except.mapError]

/-- A result whose error is worked on is there exactly if it was there before. -/
theorem exists_mapError_eq_ok_iff {ε' : Type v} {x : Except ε β} {f : ε → ε'} :
    (∃ b, x.mapError f = .ok b) ↔ ∃ b, x = .ok b :=
  exists_congr fun _ => mapError_eq_ok_iff

end LintDaemon.Result
