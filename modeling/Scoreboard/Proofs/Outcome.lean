import Mathlib.Data.List.Forall2
import Scoreboard.Journal

/-!
# Outcomes

Computations that may fail succeed step by step: a sequence of two gives a result if each of them
does, and a list is gone through if each of its items is.  The outcome of a traced computation is
the computation without its journal, so that nothing below has to follow events.
-/

namespace Scoreboard

variable {α β γ : Type}

/-! ## Computations that may fail -/

@[simp] theorem ok_bind (a : α) (next : α → Except Fault β) :
    (Except.ok a >>= next) = next a := rfl

@[simp] theorem error_bind (fault : Fault) (next : α → Except Fault β) :
    (Except.error fault >>= next) = .error fault := rfl

theorem bind_eq_ok {first : Except Fault α} {next : α → Except Fault β} {b : β} :
    (first >>= next) = .ok b ↔ ∃ a, first = .ok a ∧ next a = .ok b := by
  cases first <;> simp

theorem bind_eq_error {first : Except Fault α} {next : α → Except Fault β} {fault : Fault} :
    (first >>= next) = .error fault ↔
      first = .error fault ∨ ∃ a, first = .ok a ∧ next a = .error fault := by
  cases first <;> simp

theorem bind_eq_error_iff {first : Except Fault α} {next : α → Except Fault β}
    (hnext : ∀ a, ∃ b, next a = .ok b) {fault : Fault} :
    (first >>= next) = .error fault ↔ first = .error fault := by
  cases first with
  | error other => simp
  | ok a =>
      obtain ⟨b, hb⟩ := hnext a
      simp [hb]

theorem map_eq_ok {first : Except Fault α} {f : α → β} {b : β} :
    first.map f = .ok b ↔ ∃ a, first = .ok a ∧ f a = b := by
  cases first <;> simp [Except.map]

theorem exists_ok_iff {result : Except Fault α} :
    (∃ a, result = .ok a) ↔ ∀ fault, result ≠ .error fault := by
  cases result <;> simp

theorem exists_eq_ok {result : Except Fault α} (h : result.isOk = true) :
    ∃ a, result = .ok a := by
  cases result with
  | ok a => exact ⟨a, rfl⟩
  | error fault => cases h

theorem mapM_eq_ok {f : α → Except Fault β} {items : List α} {results : List β} :
    items.mapM f = .ok results ↔
      List.Forall₂ (fun item result => f item = .ok result) items results := by
  induction items generalizing results with
  | nil => cases results <;> simp [pure, Except.pure]
  | cons item items ih =>
      rw [List.mapM_cons, bind_eq_ok]
      constructor
      · rintro ⟨result, hitem, htail⟩
        obtain ⟨tail, hitems, heq⟩ := bind_eq_ok.mp htail
        cases heq
        exact .cons hitem (ih.mp hitems)
      · intro h
        cases h with
        | cons hitem hitems =>
            refine ⟨_, hitem, ?_⟩
            rw [ih.mpr hitems]
            rfl

/-- A list fails with the fault of its first item that has one. -/
theorem mapM_eq_error {f : α → Except Fault β} {items : List α} {fault : Fault} :
    items.mapM f = .error fault ↔ ∃ before item after, items = before ++ item :: after ∧
      (∀ other ∈ before, ∃ result, f other = .ok result) ∧ f item = .error fault := by
  constructor
  · intro h
    induction items with
    | nil => cases h
    | cons item items ih =>
        rw [List.mapM_cons, bind_eq_error] at h
        rcases h with hitem | ⟨result, hitem, h⟩
        · exact ⟨[], item, items, rfl, nofun, hitem⟩
        · rcases bind_eq_error.mp h with hitems | ⟨results, -, hpure⟩
          · obtain ⟨before, other, after, rfl, hbefore, hother⟩ := ih hitems
            refine ⟨item :: before, other, after, rfl, ?_, hother⟩
            exact List.forall_mem_cons.mpr ⟨⟨result, hitem⟩, hbefore⟩
          · cases hpure
  · rintro ⟨before, item, after, rfl, hbefore, hitem⟩
    induction before with
    | nil => rw [List.nil_append, List.mapM_cons, hitem, error_bind]
    | cons other before ih =>
        obtain ⟨⟨result, hother⟩, hbefore⟩ := List.forall_mem_cons.mp hbefore
        rw [List.cons_append, List.mapM_cons, hother, ok_bind, ih hbefore, error_bind]

theorem mapM_ok {f : α → Except Fault β} {g : α → β} {items : List α}
    (h : ∀ item ∈ items, f item = .ok (g item)) :
    items.mapM f = .ok (items.map g) := by
  rw [mapM_eq_ok, List.forall₂_map_right_iff]
  exact List.forall₂_same.mpr h

theorem exists_forall₂ {p : α → β → Prop} {items : List α}
    (h : ∀ item ∈ items, ∃ result, p item result) : ∃ results, List.Forall₂ p items results := by
  induction items with
  | nil => exact ⟨[], .nil⟩
  | cons item items ih =>
      obtain ⟨result, hitem⟩ := h item (by simp)
      obtain ⟨results, hitems⟩ := ih fun other hother => h other (by simp [hother])
      exact ⟨result :: results, .cons hitem hitems⟩

theorem exists_of_mem_right {p : α → β → Prop} {items : List α} {results : List β}
    (h : List.Forall₂ p items results) {result : β} (hresult : result ∈ results) :
    ∃ item ∈ items, p item result := by
  induction h with
  | nil => simp at hresult
  | cons hfirst _ ih =>
      rcases List.mem_cons.mp hresult with rfl | hlater
      · exact ⟨_, by simp, hfirst⟩
      · obtain ⟨item, hitem, hp⟩ := ih hlater
        exact ⟨item, by simp [hitem], hp⟩

theorem exists_getElem?_of_forall₂ {p : α → β → Prop} {items : List α} {results : List β}
    (h : List.Forall₂ p items results) {i : Nat} {item : α} (hi : items[i]? = some item) :
    ∃ result, results[i]? = some result ∧ p item result := by
  induction h generalizing i with
  | nil => cases hi
  | cons hfirst _ ih =>
      cases i with
      | zero =>
          cases hi
          exact ⟨_, rfl, hfirst⟩
      | succ i => exact ih hi

theorem exists_forall₂_iff {p : α → β → Prop} {items : List α} :
    (∃ results, List.Forall₂ p items results) ↔ ∀ item ∈ items, ∃ result, p item result := by
  constructor
  · rintro ⟨results, hresults⟩ item hitem
    obtain ⟨i, hi⟩ := List.getElem?_of_mem hitem
    obtain ⟨result, -, hresult⟩ := exists_getElem?_of_forall₂ hresults hi
    exact ⟨result, hresult⟩
  · exact exists_forall₂

theorem exists_mapM_ok_iff {f : α → Except Fault β} {items : List α} :
    (∃ results, items.mapM f = .ok results) ↔ ∀ item ∈ items, ∃ result, f item = .ok result := by
  simp only [mapM_eq_ok, exists_forall₂_iff]

theorem forall₂_comp {p : α → β → Prop} {q : β → γ → Prop} {items : List α} {results : List γ} :
    (∃ middle, List.Forall₂ p items middle ∧ List.Forall₂ q middle results) ↔
      List.Forall₂ (fun item result => ∃ b, p item b ∧ q b result) items results := by
  constructor
  · rintro ⟨middle, hfirst, hsecond⟩
    induction hfirst generalizing results with
    | nil =>
        cases hsecond
        exact .nil
    | cons hp _ ih =>
        cases hsecond with
        | cons hq hlater => exact .cons ⟨_, hp, hq⟩ (ih hlater)
  · intro h
    induction h with
    | nil => exact ⟨[], .nil, .nil⟩
    | cons hhead _ ih =>
        obtain ⟨b, hp, hq⟩ := hhead
        obtain ⟨middle, hfirst, hsecond⟩ := ih
        exact ⟨b :: middle, .cons hp hfirst, .cons hq hsecond⟩

theorem mapM_some_of_forall₂ {f : β → Option γ} {g : α → γ} {items : List α} {results : List β}
    (h : List.Forall₂ (fun item result => f result = some (g item)) items results) :
    results.mapM f = some (items.map g) := by
  induction h with
  | nil => rfl
  | cons hfirst _ ih => simp [List.mapM_cons, hfirst, ih]

theorem mapM_some {f : α → Option β} {g : α → β} {items : List α}
    (h : ∀ item ∈ items, f item = some (g item)) :
    items.mapM f = some (items.map g) :=
  mapM_some_of_forall₂ (List.forall₂_same.mpr h)

/-! ## Computations that keep a journal -/

namespace Traced

@[simp] theorem outcome_pure (a : α) : (pure a : Traced α).outcome = .ok a := rfl

@[simp] theorem outcome_note (event : Event) : (note event).outcome = .ok () := rfl

@[simp] theorem outcome_lift (result : Except Fault α) :
    (liftM result : Traced α).outcome = result := rfl

@[simp] theorem outcome_bind (first : Traced α) (next : α → Traced β) :
    (first >>= next).outcome = first.outcome >>= fun a => (next a).outcome := by
  obtain ⟨events, outcome⟩ := first
  cases outcome <;> rfl

@[simp] theorem outcome_mapM (f : α → Traced β) (items : List α) :
    (items.mapM f).outcome = items.mapM fun item => (f item).outcome := by
  induction items with
  | nil => rfl
  | cons item items ih => simp [List.mapM_cons, ih, pure, Except.pure]

end Traced

end Scoreboard
