import Mathlib

-- Fallible computations: `Except` for pure checks, `EStateM` for code that changes a state and may
-- stop with an error without undoing what it changed. The lemmas say how a composed computation
-- ended in terms of how its parts ended, so that proofs peel a function apart without unfolding it.
namespace Jury.Lib

open List

variable {ε ε' σ α β : Type} {a : α} {error e : ε} {x : Except ε α} {l : List α} {r : List β} {s t : σ}

-- A check that stops with `error` when its condition holds.
def rejectIf (condition : Bool) (error : ε) : Except ε Unit :=
  if condition then .error error else .ok ()

@[simp] theorem rejectIf_eq_ok {condition : Bool} {u : Unit} :
    rejectIf condition error = .ok u ↔ condition = false := by
  cases condition <;> simp [rejectIf]

def orReject (value : Option α) (error : ε) : Except ε α :=
  match value with
  | none => .error error
  | some a => .ok a

@[simp] theorem orReject_eq_ok {value : Option α} : orReject value error = .ok a ↔ value = some a := by
  cases value <;> simp [orReject]

@[simp] theorem bind_eq_ok {f : α → Except ε β} {b : β} : (x >>= f) = .ok b ↔ ∃ a, x = .ok a ∧ f a = .ok b := by
  cases x with
  | error e => simp [bind, Except.bind]
  | ok a => simp [bind, Except.bind]

theorem ok_unique {b : α} (ha : x = .ok a) (hb : x = .ok b) : a = b :=
  Except.ok.inj (ha.symm.trans hb)

theorem some_unique {x : Option α} {b : α} (ha : x = some a) (hb : x = some b) : a = b :=
  Option.some.inj (ha.symm.trans hb)

@[simp] theorem pure_eq_ok {b : α} : (pure a : Except ε α) = .ok b ↔ a = b := by
  simp [pure, Except.pure]

@[simp] theorem map_eq_ok {f : α → β} {b : β} : (f <$> x) = .ok b ↔ ∃ a, x = .ok a ∧ f a = b := by
  cases x with
  | error e => simp [Functor.map, Except.map]
  | ok a => simp [Functor.map, Except.map]

@[simp] theorem mapError_eq_ok {f : ε → ε'} : x.mapError f = .ok a ↔ x = .ok a := by
  cases x <;> simp [Except.mapError]

-- The rules for `Except` as one simp set.
theorem eq_ok :
    (∀ {ε α β : Type} {x : Except ε α} {f : α → Except ε β} {b : β}, (x >>= f) = .ok b ↔ ∃ a, x = .ok a ∧ f a = .ok b) ∧
    (∀ {ε α : Type} {a b : α}, (pure a : Except ε α) = .ok b ↔ a = b) ∧
    (∀ {ε : Type} {condition : Bool} {error : ε} {u : Unit}, rejectIf condition error = .ok u ↔ condition = false) ∧
    (∀ {ε α : Type} {value : Option α} {error : ε} {a : α}, orReject value error = .ok a ↔ value = some a) ∧
    ∀ {ε ε' α : Type} {x : Except ε α} {f : ε → ε'} {a : α}, x.mapError f = .ok a ↔ x = .ok a :=
  ⟨bind_eq_ok, pure_eq_ok, rejectIf_eq_ok, orReject_eq_ok, mapError_eq_ok⟩

-- What is known when no part of a condition for refusal held, and when all parts of a condition hold.
theorem passed :
    (∀ {a b : Bool}, (a || b) = false ↔ a = false ∧ b = false) ∧ (∀ {a : Bool}, (!a) = false ↔ a = true) ∧
    (∀ {α : Type} [BEq α] [LawfulBEq α] {a b : α}, (a != b) = false ↔ a = b) ∧
    ∀ {p : Prop} [Decidable p], decide p = false ↔ ¬ p :=
  ⟨Bool.or_eq_false_iff, by simp, bne_eq_false_iff_eq, decide_eq_false_iff_not⟩

theorem holds :
    (∀ {a b : Bool}, (a && b) = true ↔ a = true ∧ b = true) ∧
    (∀ {α : Type} [BEq α] [LawfulBEq α] {a b : α}, (a == b) = true ↔ a = b) ∧
    ∀ {p : Prop} [Decidable p], decide p = true ↔ p :=
  ⟨Bool.and_eq_true_iff, beq_iff_eq, decide_eq_true_iff⟩

theorem eq_some :
    (∀ {α β : Type} {x : Option α} {f : α → Option β} {b : β}, (x >>= f) = some b ↔ ∃ a, x = some a ∧ f a = some b) ∧
    ∀ {α : Type} {a b : α}, (pure a : Option α) = some b ↔ a = b :=
  ⟨Option.bind_eq_some_iff, Option.some_inj⟩

def Returns (x : Except ε α) (p : α → Bool) : Bool :=
  match x with
  | .ok a => p a
  | .error _ => false

theorem returns_iff {p : α → Bool} : Returns x p = true ↔ ∃ a, x = .ok a ∧ p a = true := by
  cases x <;> simp [Returns]

theorem exists_eq_ok_of_isOk (h : x.isOk = true) : ∃ a, x = .ok a := by
  cases x with
  | error e => cases h
  | ok a => exact ⟨a, rfl⟩

-- A computation that stops only with errors that satisfy `P`.
def FailsWith (P : ε → Prop) (x : Except ε α) : Prop := ∀ error, x = .error error → P error

namespace FailsWith

variable {P : ε → Prop}

theorem pure (a : α) : FailsWith P (Pure.pure a : Except ε α) := by
  rintro error ⟨⟩

theorem rejectIf {condition : Bool} (h : P error) : FailsWith P (Jury.Lib.rejectIf condition error) := by
  intro found hfound
  cases condition with
  | false => cases hfound
  | true => exact Except.error.inj hfound ▸ h

theorem orReject {value : Option α} (h : P error) : FailsWith P (Jury.Lib.orReject value error) := by
  intro found hfound
  cases value with
  | none => exact Except.error.inj hfound ▸ h
  | some a => cases hfound

theorem mapError {x : Except ε' α} {f : ε' → ε} (h : ∀ error, P (f error)) : FailsWith P (x.mapError f) := by
  intro found hfound
  cases x with
  | error error => exact Except.error.inj hfound ▸ h error
  | ok a => cases hfound

theorem bind {f : α → Except ε β} (hx : FailsWith P x) (hf : ∀ a, FailsWith P (f a)) : FailsWith P (x >>= f) := by
  intro error herror
  cases hresult : x with
  | error found =>
    rw [hresult] at herror
    exact hx error (hresult.trans (congrArg _ (Except.error.inj herror)))
  | ok a =>
    rw [hresult] at herror
    exact hf a error herror

end FailsWith

section Loops

variable {f : β → α → Except ε β} {b c : β}

theorem forM_eq_ok {g : α → Except ε Unit} {u : Unit} : l.forM g = .ok u ↔ ∀ a ∈ l, g a = .ok () := by
  induction l with
  | nil => simp
  | cons a l ih =>
    have hcons : (a :: l).forM g = (g a >>= fun _ => l.forM g) := rfl
    rw [hcons, bind_eq_ok, forall_mem_cons, ih]
    exact ⟨fun ⟨_, ha, hl⟩ => ⟨ha, hl⟩, fun ⟨ha, hl⟩ => ⟨(), ha, hl⟩⟩

theorem mapM_eq_ok {g : α → Except ε β} : l.mapM g = .ok r ↔ List.Forall₂ (fun a b => g a = .ok b) l r := by
  induction l generalizing r with
  | nil => rw [mapM_nil, pure_eq_ok, forall₂_nil_left_iff, eq_comm]
  | cons a l ih =>
    simp only [mapM_cons, bind_eq_ok, pure_eq_ok, ih, forall₂_cons_left_iff]
    exact ⟨fun ⟨b, hb, bs, hbs, heq⟩ => ⟨b, bs, hb, hbs, heq.symm⟩,
      fun ⟨b, bs, hb, hbs, heq⟩ => ⟨b, hb, bs, hbs, heq.symm⟩⟩

theorem forall₂_mem_right {R : α → β → Prop} (h : List.Forall₂ R l r) {b : β} (hb : b ∈ r) : ∃ a ∈ l, R a b := by
  induction h with
  | nil => cases hb
  | cons hab _ ih =>
    rcases mem_cons.mp hb with rfl | hb
    · exact ⟨_, mem_cons_self, hab⟩
    · obtain ⟨a, ha, hab⟩ := ih hb
      exact ⟨a, mem_cons_of_mem _ ha, hab⟩

theorem forall₂_mem_left {R : α → β → Prop} (h : List.Forall₂ R l r) (ha : a ∈ l) : ∃ b ∈ r, R a b :=
  forall₂_mem_right h.flip ha

theorem exists_mapM_eq_ok {g : α → Except ε β} (h : ∀ a ∈ l, ∃ b, g a = .ok b) : ∃ r, l.mapM g = .ok r := by
  induction l with
  | nil => exact ⟨[], rfl⟩
  | cons a l ih =>
    obtain ⟨b, hb⟩ := h a mem_cons_self
    obtain ⟨r, hr⟩ := ih fun x hx => h x (mem_cons_of_mem a hx)
    exact ⟨b :: r, by simp [mapM_cons, hb, hr]⟩

@[simp] theorem foldlM_append_eq_ok {r : List α} :
    (l ++ r).foldlM f b = .ok c ↔ ∃ m, l.foldlM f b = .ok m ∧ r.foldlM f m = .ok c := by
  rw [foldlM_append, bind_eq_ok]

@[simp] theorem foldlM_cons_eq_ok : (a :: l).foldlM f b = .ok c ↔ ∃ m, f b a = .ok m ∧ l.foldlM f m = .ok c := by
  rw [foldlM_cons, bind_eq_ok]

-- What every round of a loop preserves, the loop preserves.
theorem foldlM_preserves {P : β → Prop} (hround : ∀ a ∈ l, ∀ b c, P b → f b a = .ok c → P c) (hb : P b)
    (h : l.foldlM f b = .ok c) : P c := by
  induction l generalizing b with
  | nil =>
    simp only [foldlM_nil, pure_eq_ok] at h
    exact h ▸ hb
  | cons a l ih =>
    obtain ⟨m, hm, hrest⟩ := foldlM_cons_eq_ok.mp h
    exact ih (fun x hx => hround x (mem_cons_of_mem a hx)) (hround a (by simp) b m hb hm) hrest

-- What every round checks of its own element, a loop that returns has checked of all of them.
theorem foldlM_forall {Q : α → Prop} (hround : ∀ a b c, f b a = .ok c → Q a) (h : l.foldlM f b = .ok c) :
    ∀ a ∈ l, Q a := by
  induction l generalizing b with
  | nil => simp
  | cons a l ih =>
    obtain ⟨m, hm, hrest⟩ := foldlM_cons_eq_ok.mp h
    exact forall_mem_cons.mpr ⟨hround a b m hm, ih hrest⟩

-- A loop over translated states is the translation of the loop, when every round is.
theorem foldlM_translate {γ : Type} {step : β → α → Except ε β} {step' : γ → α → Except ε γ} {g : β → γ}
    (hround : ∀ b a, step' (g b) a = g <$> step b a) (l : List α) (b : β) :
    l.foldlM step' (g b) = g <$> l.foldlM step b := by
  induction l generalizing b with
  | nil => rfl
  | cons a l ih =>
    rw [foldlM_cons, foldlM_cons, hround, map_bind, bind_map_left]
    exact bind_congr fun m => ih m

end Loops

-- The state a computation leaves behind, whether it returned or stopped.
def finalState : EStateM.Result ε σ α → σ
  | .ok _ s => s
  | .error _ s => s

@[simp] theorem finalState_ok (a : α) (s : σ) : finalState (.ok a s : EStateM.Result ε σ α) = s := rfl

@[simp] theorem finalState_error (e : ε) (s : σ) : finalState (.error e s : EStateM.Result ε σ α) = s := rfl

def check (x : Except ε α) : EStateM ε σ α := fun s =>
  match x with
  | .ok a => .ok a s
  | .error e => .error e s

@[simp] theorem check_eq_ok : check x s = .ok a t ↔ x = .ok a ∧ s = t := by
  cases x <;> simp [check]

@[simp] theorem check_eq_error : check x s = .error e t ↔ x = .error e ∧ s = t := by
  cases x <;> simp [check]

theorem check_map (f : α → β) (x : Except ε α) : (check (f <$> x) : EStateM ε σ β) = f <$> check x := by
  cases x <;> rfl

@[simp] theorem finalState_check (x : Except ε α) (s : σ) : finalState (check x s) = s := by
  cases x <;> rfl

section State

variable {x : EStateM ε σ α} {f : α → EStateM ε σ β} {b : β} {u : σ} {P : σ → Prop}

@[simp] theorem state_bind_eq_ok : (x >>= f) s = .ok b u ↔ ∃ a t, x s = .ok a t ∧ f a t = .ok b u := by
  simp only [bind, EStateM.bind]
  cases x s <;> simp

@[simp] theorem bind_eq_error :
    (x >>= f) s = .error e u ↔ x s = .error e u ∨ ∃ a t, x s = .ok a t ∧ f a t = .error e u := by
  simp only [bind, EStateM.bind]
  cases x s <;> simp

@[simp] theorem state_pure_eq_ok {b : α} : (pure a : EStateM ε σ α) s = .ok b t ↔ a = b ∧ s = t := by
  simp [pure, EStateM.pure]

theorem get_bind {f : σ → EStateM ε σ β} : (get >>= f) s = f s s := rfl

theorem set_bind {f : PUnit → EStateM ε σ β} : (set t >>= f) s = f ⟨⟩ t := rfl

theorem state_eq_ok :
    (∀ {ε σ α β : Type} {x : EStateM ε σ α} {f : α → EStateM ε σ β} {s u : σ} {b : β},
      (x >>= f) s = .ok b u ↔ ∃ a t, x s = .ok a t ∧ f a t = .ok b u) ∧
    (∀ {ε σ α : Type} {a b : α} {s t : σ}, (pure a : EStateM ε σ α) s = .ok b t ↔ a = b ∧ s = t) ∧
    (∀ {ε σ α : Type} {x : Except ε α} {s t : σ} {a : α}, check x s = .ok a t ↔ x = .ok a ∧ s = t) ∧
    (∀ {ε σ β : Type} {f : σ → EStateM ε σ β} {s : σ}, (get >>= f) s = f s s) ∧
    ∀ {ε σ β : Type} {f : PUnit → EStateM ε σ β} {s t : σ}, (set t >>= f) s = f ⟨⟩ t :=
  ⟨state_bind_eq_ok, state_pure_eq_ok, check_eq_ok, get_bind, set_bind⟩

theorem state_map_eq_ok {f : α → β} : (f <$> x) s = .ok b t ↔ ∃ a, x s = .ok a t ∧ f a = b := by
  simp only [Functor.map, EStateM.map]
  cases x s <;> simp [and_comm]

theorem throw_ne_ok : ¬ (throw e : EStateM ε σ α) s = .ok a t := by
  simp [throw, throwThe, MonadExceptOf.throw, EStateM.throw]

@[simp] theorem finalState_get_bind {f : σ → EStateM ε σ β} : finalState ((get >>= f) s) = finalState (f s s) := rfl

@[simp] theorem finalState_set : finalState ((set t : EStateM ε σ PUnit) s) = t := rfl

@[simp] theorem finalState_set_bind {f : PUnit → EStateM ε σ β} :
    finalState ((set t >>= f) s) = finalState (f ⟨⟩ t) := rfl

@[simp] theorem finalState_check_ok : finalState ((check (.ok a) >>= f) s) = finalState (f a s) := rfl

@[simp] theorem finalState_check_error : finalState ((check (.error e) >>= f) s) = s := rfl

@[simp] theorem finalState_pure : finalState ((pure a : EStateM ε σ α) s) = s := rfl

@[simp] theorem finalState_throw : finalState ((throw e : EStateM ε σ α) s) = s := rfl

-- The same as rules for what holds in the end.
theorem final_get {f : σ → EStateM ε σ β} (h : P (finalState (f s s))) : P (finalState ((get >>= f) s)) := h

theorem final_set {f : PUnit → EStateM ε σ β} (h : P (finalState (f ⟨⟩ t))) : P (finalState ((set t >>= f) s)) := h

theorem final_check {x : Except ε α} (hs : P s)
    (hok : ∀ a, x = .ok a → P (finalState (f a s))) : P (finalState ((check x >>= f) s)) := by
  cases x with
  | error e => exact hs
  | ok a => exact hok a rfl

-- The rules for a sequence when the second part has to know what the first one returned.
theorem final_bind_of (herror : ∀ e t, x s = .error e t → P t)
    (hok : ∀ a t, x s = .ok a t → P (finalState (f a t))) : P (finalState ((x >>= f) s)) := by
  simp only [Bind.bind, EStateM.bind]
  cases h : x s with
  | error e t => exact herror e t h
  | ok a t => exact hok a t h

theorem final_seq (hx : P (finalState (x s)))
    (hf : ∀ a t, x s = .ok a t → P t → P (finalState (f a t))) : P (finalState ((x >>= f) s)) := by
  refine final_bind_of (fun e t h => ?_) fun a t h => hf a t h ?_
  · rwa [h] at hx
  · rwa [h] at hx

theorem final_bind {R : σ → σ → Prop} [IsTrans σ R] (hx : R s (finalState (x s)))
    (hf : ∀ a t, x s = .ok a t → R t (finalState (f a t))) : R s (finalState ((x >>= f) s)) :=
  final_seq hx fun a t h hx => IsTrans.trans s t _ hx (hf a t h)

theorem finalState_bind_check {f : α → Except ε β} :
    finalState ((x >>= fun a => check (f a)) s) = finalState (x s) := by
  simp only [Bind.bind, EStateM.bind]
  cases x s with
  | error e t => rfl
  | ok a t => exact finalState_check (f a) t

end State

end Jury.Lib
