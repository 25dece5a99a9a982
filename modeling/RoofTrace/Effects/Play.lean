import RoofTrace.Effects.Program

/-!
# Runs in parts

A program that is played hands on the choices that it has not used, so that the run of a
program and then of another one is composed of their runs.
-/

namespace Effects

variable {S : Signature} {I : Interp S} {ε σ α β ι : Type}

namespace Prog

/-- The run of a program by `i`, with the choices that are left. -/
def play (i : ι) : Prog S α → (ℕ → I.Choices) → Config I ι → α × (ℕ → I.Choices) × Config I ι
  | .pure a, χ, c => (a, χ, c)
  | .perform o next, χ, c =>
      (next (c.answer o (χ 0 o))).play i (fun n => χ (n + 1)) (c.after i o (χ 0 o))

theorem run_eq_play (i : ι) (p : Prog S α) (χ : ℕ → I.Choices) (c : Config I ι) :
  p.run i χ c = ((p.play i χ c).1, (p.play i χ c).2.2)
  := by
  induction p generalizing χ c with
  | pure a => rfl
  | perform o next ih => apply ih

theorem play_bind (i : ι) (p : Prog S α) (f : α → Prog S β) (χ : ℕ → I.Choices)
    (c : Config I ι) :
  (p.bind f).play i χ c =
    (f (p.play i χ c).1).play i (p.play i χ c).2.1 (p.play i χ c).2.2
  := by
  induction p generalizing χ c with
  | pure a => rfl
  | perform o next ih => apply ih

/-- What has passed before a program is played is the beginning of what has passed after it. -/
theorem past_suffix_play (i : ι) (p : Prog S α) (χ : ℕ → I.Choices) (c : Config I ι) :
  c.past <:+ (p.play i χ c).2.2.past
  := by
  induction p generalizing χ c with
  | pure a => exact List.suffix_rfl
  | perform o next ih =>
      have hnext := ih (c.answer o (χ 0 o)) (fun n => χ (n + 1)) (c.after i o (χ 0 o))
      exact (List.suffix_cons _ _).trans hnext

theorem bind_assoc {γ : Type} (p : Prog S α) (f : α → Prog S β) (g : β → Prog S γ) :
  (p.bind f).bind g = p.bind fun a => (f a).bind g
  := by
  induction p with
  | pure a => rfl
  | perform o next ih =>
      simp only [bind, ih]

theorem bind_pure (p : Prog S α) :
  p.bind .pure = p
  := by
  induction p with
  | pure a => rfl
  | perform o next ih =>
      simp only [bind, ih]

/-- Whether the run of a program goes on as the run of another one. -/
def Continues (i : ι) (p : Prog S α) (χ : ℕ → I.Choices) (c : Config I ι) (q : Prog S α)
    (χ' : ℕ → I.Choices) (c' : Config I ι) : Prop :=
  p.play i χ c = q.play i χ' c'

variable {i : ι} {p q : Prog S α} {χ χ' χ'' : ℕ → I.Choices} {c c' c'' : Config I ι}

theorem Continues.trans {r : Prog S α} (h : Continues i p χ c q χ' c')
    (h' : Continues i q χ' c' r χ'' c'') :
  Continues i p χ c r χ'' c''
  := Eq.trans h h'

theorem Continues.bind (h : Continues i p χ c q χ' c') (f : α → Prog S β) :
  Continues i (p.bind f) χ c (q.bind f) χ' c'
  := by
  unfold Continues at h ⊢
  rw [play_bind, play_bind, h]

/-- A program that is done is followed by the next one. -/
theorem continues_bind {a : α} (h : p.play i χ c = (a, χ', c')) (f : α → Prog S β) :
  Continues i (p.bind f) χ c (f a) χ' c'
  := by
  unfold Continues
  rw [play_bind, h]

end Prog

namespace Action

theorem id_map (x : Action S ε σ α) :
  id <$> x = x
  := by
  funext s
  change Prog.bind (x s) _ = x s
  refine Eq.trans ?_ (Prog.bind_pure (x s))
  congr 1
  funext r
  obtain ⟨r, s'⟩ := r
  cases r <;> rfl

theorem bind_assoc {γ : Type} (x : Action S ε σ α) (f : α → Action S ε σ β)
    (g : β → Action S ε σ γ) :
  x >>= f >>= g = x >>= fun a => f a >>= g
  := by
  funext s
  change Prog.bind (Prog.bind (x s) _) _ = Prog.bind (x s) _
  rw [Prog.bind_assoc]
  congr 1
  funext r
  obtain ⟨r, s'⟩ := r
  cases r <;> rfl

instance : LawfulMonad (Action S ε σ) :=
  LawfulMonad.mk' _ id_map (fun _ _ => rfl) bind_assoc

variable {i : ι} {x : Action S ε σ α} {s s' : σ} {χ χ' : ℕ → I.Choices} {c c' : Config I ι}

theorem play_ofExcept (r : Except ε α) :
  ((ofExcept r : Action S ε σ α) s).play i χ c = ((r, s), χ, c)
  := by
  cases r <;> rfl

/-- An action that ends with a result is followed by the next one. -/
theorem play_bind_of_ok {f : α → Action S ε σ β} {a : α} {t : σ}
    (h : (x s).play i χ c = ((.ok a, t), χ', c')) :
  ((x >>= f) s).play i χ c = (f a t).play i χ' c'
  := by
  change (Prog.bind (x s) _).play i χ c = _
  rw [Prog.play_bind, h]

/-- An action that raises is followed by nothing. -/
theorem play_bind_of_error {f : α → Action S ε σ β} {e : ε}
    (h : (x s).play i χ c = ((.error e, s'), χ', c')) :
  ((x >>= f) s).play i χ c = ((.error e, s'), χ', c')
  := by
  change (Prog.bind (x s) _).play i χ c = _
  rw [Prog.play_bind, h]
  rfl

/-- The handler of an action that ends with a result is not run. -/
theorem play_tryCatch_of_ok {handler : ε → Action S ε σ α} {a : α}
    (h : (x s).play i χ c = ((.ok a, s'), χ', c')) :
  ((tryCatch x handler : Action S ε σ α) s).play i χ c = ((.ok a, s'), χ', c')
  := by
  change (Prog.bind (x s) _).play i χ c = _
  rw [Prog.play_bind, h]
  rfl

/-- The handler of an action that raises is run. -/
theorem play_tryCatch_of_error (handler : ε → Action S ε σ α) {e : ε}
    (h : (x s).play i χ c = ((.error e, s'), χ', c')) :
  ((tryCatch x handler : Action S ε σ α) s).play i χ c = (handler e s').play i χ' c'
  := by
  change (Prog.bind (x s) _).play i χ c = _
  rw [Prog.play_bind, h]

/-- The outcome of an action is what it ends with. -/
theorem play_outcome {r : Except ε α} (h : (x s).play i χ c = ((r, s'), χ', c')) :
  (x.outcome s).play i χ c = (r, χ', c')
  := by
  change (Prog.bind (x s) _).play i χ c = _
  rw [Prog.play_bind, h]
  rfl

/-! ### Going on -/

variable {y : Action S ε σ α}

theorem continues_bind (h : (x s).Continues i χ c (y s') χ' c') (f : α → Action S ε σ β) :
  ((x >>= f) s).Continues i χ c ((y >>= f) s') χ' c'
  := Prog.Continues.bind h _

theorem continues_tryCatch (h : (x s).Continues i χ c (y s') χ' c')
    (handler : ε → Action S ε σ α) :
  ((tryCatch x handler : Action S ε σ α) s).Continues i χ c
    ((tryCatch y handler : Action S ε σ α) s') χ' c'
  := Prog.Continues.bind h _

theorem continues_ensuring (h : (x s).Continues i χ c (y s') χ' c')
    (cleanup : Action S ε σ Unit) :
  ((x.ensuring cleanup) s).Continues i χ c ((y.ensuring cleanup) s') χ' c'
  := Prog.Continues.bind h _

/-- An action that has been played goes on with its outcome. -/
theorem continues_of_play {r : Except ε α} (h : (x s).play i χ c = ((r, s'), χ', c')) :
  (x s).Continues i χ c ((ofExcept r : Action S ε σ α) s') χ' c'
  := by
  unfold Prog.Continues
  rw [h, play_ofExcept]

/-- An action on a part of a state that has been played goes on with its outcome. -/
theorem continues_within {τ : Type} {enter : τ → σ} {leave : σ → τ → τ} {t t' : τ}
    {r : Except ε α} (f : α → Action S ε σ β) (henter : ∀ s t, enter (leave s t) = s)
    (hleave : ∀ s s' t, leave s' (leave s t) = leave s' t)
    (h : ((x.within enter leave) t).play i χ c = ((r, t'), χ', c')) :
  (((x >>= f).within enter leave) t).Continues i χ c
    (((ofExcept r >>= f : Action S ε σ β).within enter leave) t') χ' c'
  := by
  cases hx : (x (enter t)).play i χ c with
  | mk rs rest =>
      obtain ⟨r₁, s₁⟩ := rs
      obtain ⟨χ₁, c₁⟩ := rest
      have hplay : ((x.within enter leave) t).play i χ c = ((r₁, leave s₁ t), χ₁, c₁) := by
        change (Prog.bind (x (enter t)) _).play i χ c = _
        rw [Prog.play_bind, hx]
        rfl
      rw [hplay] at h
      cases h
      have hpack : (fun rs : Except ε β × σ => Prog.pure (S := S) (rs.1, leave rs.2 (leave s₁ t))) =
          fun rs => .pure (rs.1, leave rs.2 t) := by
        funext rs
        rw [hleave]
      have hrest : ((ofExcept r >>= f : Action S ε σ β).within enter leave) (leave s₁ t) =
          ((ofExcept r >>= f : Action S ε σ β) s₁).bind fun rs => .pure (rs.1, leave rs.2 t) := by
        change ((ofExcept r >>= f : Action S ε σ β) (enter (leave s₁ t))).bind _ = _
        rw [henter, ← hpack]
      rw [hrest]
      exact (continues_bind (continues_of_play hx) f).bind _

end Action

end Effects
