import CatLitterBox.Program.Total

namespace program

namespace Program

variable {A B : Type} {R : A → Type} {S : B → Type} {α β γ δ σ τ T : Type}

/-- The same program over another signature, in which its actions have counterparts. -/
def embed (f : A → B) (answer : (a : A) → S (f a) → R a) {α : Type} : Program A R α → Program B S α
  | .ret x => .ret x
  | .act a k => .act (f a) fun r => (k (answer a r)).embed f answer
  | .loop body x k => .loop (fun y => (body y).embed f answer) x fun b => (k b).embed f answer

/-- The program whose actions are carried out by programs of another signature, which pass a state on. -/
def implement (impl : (a : A) → T → Program B S (R a × T)) {α : Type} :
    Program A R α → T → Program B S (α × T)
  | .ret x, t => .ret (x, t)
  | .act a k, t => (impl a t).bind fun r => (k r.1).implement impl r.2
  | .loop body x k, t =>
    .loop (fun y => ((body y.1).implement impl y.2).bind fun o =>
      .ret (o.1.elim (fun z => .inl (z, o.2)) fun b => .inr (b, o.2))) (x, t) fun b => (k b.1).implement impl b.2

/-- To embed a program is to embed its parts. -/
theorem embed_bind {f : A → B} {answer : (a : A) → S (f a) → R a} (c : Program A R α) (g : α → Program A R γ) :
    (c.bind g).embed f answer = (c.embed f answer).bind fun x => (g x).embed f answer := by
  induction c with
  | ret x => rfl
  | act a k ih => simp only [act_bind, embed, ih]
  | loop body x k _ ih => simp only [loop_bind, embed, ih]

section

variable {U V : Type} {N : Spec A R U} {M : Spec B S V}

/-- Counterparts that the larger signature allows and answers as the smaller one does keep the weakest
precondition. -/
theorem wp_embed {f : A → B} {answer : (a : A) → S (f a) → R a} {view : V → U}
    (hallow : ∀ a v, N.allow a (view v) → M.allow (f a) v)
    (htrans : ∀ a v r w, M.trans (f a) v r w → N.trans a (view v) (answer a r) (view w))
    {c : Program A R α} {Q : α → U → Prop} {v : V} (hc : c.wp N Q (view v)) :
    (c.embed f answer).wp M (fun x w => Q x (view w)) v := by
  induction c generalizing v with
  | ret x => exact hc
  | act a k ih => exact ⟨hallow a v hc.1, fun r w hw => ih (answer a r) (hc.2 _ _ (htrans a v r w hw))⟩
  | loop body x k ihbody ihk =>
    obtain ⟨I, hstart, hturn⟩ := hc
    refine ⟨fun y w => I y (view w), hstart, fun y w hy => wp_mono ?_ (ihbody y (hturn y _ hy))⟩
    rintro (z | b) w' hw
    · exact hw
    · exact ihk b hw

/-- Where each action is carried out as the specification of the program foresees, the program is. The
relation holds between the state of the specification, the state that is passed on and the state below. -/
theorem wp_implement {impl : (a : A) → T → Program B S (R a × T)} {rel : U → T → V → Prop}
    (himpl : ∀ a u t v, rel u t v → N.allow a u →
      (impl a t).wp M (fun x w => ∃ u', N.trans a u x.1 u' ∧ rel u' x.2 w) v)
    {c : Program A R α} {Q : α → U → Prop} {u : U} {t : T} {v : V} (hc : c.wp N Q u) (hrel : rel u t v) :
    (c.implement impl t).wp M (fun x w => ∃ u', Q x.1 u' ∧ rel u' x.2 w) v := by
  induction c generalizing u t v with
  | ret x => exact ⟨u, hc, hrel⟩
  | act a k ih =>
    refine wp_seq (wp_mono ?_ (himpl a u t v hrel hc.1))
    rintro ⟨r, t'⟩ w ⟨u', htrans, hrel'⟩
    exact ih r (hc.2 r u' htrans) hrel'
  | loop body x k ihbody ihk =>
    obtain ⟨I, hstart, hturn⟩ := hc
    refine ⟨fun y w => ∃ u', I y.1 u' ∧ rel u' y.2 w, ⟨u, hstart, hrel⟩, ?_⟩
    rintro ⟨y, t'⟩ w ⟨u', hy, hrel'⟩
    refine wp_seq (wp_mono ?_ (ihbody y (hturn y u' hy) hrel'))
    rintro ⟨z | b, t''⟩ w' ⟨u'', hresult, hrel''⟩
    · exact ⟨u'', hresult, hrel''⟩
    · exact ihk b hresult hrel''

end

theorem unroll_bind (body : σ → Program A R (σ ⊕ β)) (x : σ) (k : β → Program A R α)
    (f : α → Program A R γ) : (unroll body x k).bind f = unroll body x fun b => (k b).bind f := by
  rw [unroll, unroll, bind_assoc]
  congr 1
  funext o
  cases o with
  | inl y => rfl
  | inr b => rfl

/-- Two programs perform the same actions, whatever these are answered, and have related results. They may
enter the turns of their loops at different times. -/
inductive Alike : {α β : Type} → (α → β → Prop) → Program A R α → Program A R β → Prop where
  | ret {α β : Type} {P : α → β → Prop} {x : α} {y : β} (h : P x y) : Alike P (.ret x) (.ret y)
  | act {α β : Type} {P : α → β → Prop} {a : A} {k : R a → Program A R α} {l : R a → Program A R β}
      (h : ∀ r, Alike P (k r) (l r)) : Alike P (.act a k) (.act a l)
  | loop {α β γ δ σ τ : Type} {P : α → β → Prop} (I : σ → τ → Prop) (J : γ → δ → Prop)
      {body : σ → Program A R (σ ⊕ γ)} {body' : τ → Program A R (τ ⊕ δ)} {x : σ} {y : τ}
      {k : γ → Program A R α} {l : δ → Program A R β} (hstart : I x y)
      (hturn : ∀ x y, I x y → Alike (Sum.LiftRel I J) (body x) (body' y))
      (hleave : ∀ b d, J b d → Alike P (k b) (l d)) : Alike P (.loop body x k) (.loop body' y l)
  | unroll_left {α β γ σ : Type} {P : α → β → Prop} {body : σ → Program A R (σ ⊕ γ)} {x : σ}
      {k : γ → Program A R α} {d : Program A R β} (h : Alike P (unroll body x k) d) :
      Alike P (.loop body x k) d
  | unroll_right {α β γ σ : Type} {P : α → β → Prop} {body : σ → Program A R (σ ⊕ γ)} {x : σ}
      {k : γ → Program A R β} {c : Program A R α} (h : Alike P c (unroll body x k)) :
      Alike P c (.loop body x k)

variable {P : α → β → Prop} {Q : γ → δ → Prop} {c : Program A R α} {d : Program A R β}

/-- A program is like itself. -/
theorem alike_refl {P : α → α → Prop} (hP : ∀ x, P x x) (c : Program A R α) : Alike P c c := by
  induction c with
  | ret x => exact .ret (hP x)
  | act a k ih => exact .act fun r => ih r hP
  | loop body x k ihbody ihk =>
    refine .loop Eq Eq rfl ?_ ?_
    · rintro y _ rfl
      refine ihbody y fun o => ?_
      cases o with
      | inl z => exact .inl rfl
      | inr b => exact .inr rfl
    · rintro b _ rfl
      exact ihk b hP

/-- Programs with like parts are alike. -/
theorem alike_bind (h : Alike P c d) {f : α → Program A R γ} {g : β → Program A R δ}
    (hfg : ∀ x y, P x y → Alike Q (f x) (g y)) : Alike Q (c.bind f) (d.bind g) := by
  induction h with
  | ret h => exact hfg _ _ h
  | act _ ih => exact .act fun r => ih r hfg
  | loop I J hstart hturn _ _ ih => exact .loop I J hstart hturn fun b d hbd => ih b d hbd hfg
  | unroll_left _ ih =>
    refine .unroll_left ?_
    rw [← unroll_bind]
    exact ih hfg
  | unroll_right _ ih =>
    refine .unroll_right ?_
    rw [← unroll_bind]
    exact ih hfg

/-- After what is left of their turns, two loops both go round again or both leave. -/
theorem alike_turn {I : σ → τ → Prop} {body : σ → Program A R (σ ⊕ γ)} {body' : τ → Program A R (τ ⊕ δ)}
    {k : γ → Program A R α} {l : δ → Program A R β} {turn : Program A R (σ ⊕ γ)} {turn' : Program A R (τ ⊕ δ)}
    (hturn : ∀ x y, I x y → Alike (Sum.LiftRel I Q) (body x) (body' y))
    (hleave : ∀ b d, Q b d → Alike P (k b) (l d)) (h : Alike (Sum.LiftRel I Q) turn turn') :
    Alike P (turn.bind (Sum.elim (fun x => .loop body x k) k))
      (turn'.bind (Sum.elim (fun y => .loop body' y l) l)) := by
  refine alike_bind h ?_
  rintro _ _ (hround | hleft)
  · exact .loop I Q hround hturn hleave
  · exact hleave _ _ hleft

variable {oracle : (a : A) → List ((a : A) × R a) → R a}

/-- A step of one of two programs that are alike is some steps of the other, after which they are alike. -/
theorem alike_advance (oracle : (a : A) → List ((a : A) × R a) → R a) (h : Alike P c d)
    (s : List ((a : A) × R a)) :
    ∃ d', ComesTo oracle (d, s) (d', (c.advance (record oracle) s).2) ∧
      Alike P (c.advance (record oracle) s).1 d' := by
  induction h with
  | ret h => exact ⟨_, .refl, .ret h⟩
  | act h _ => exact ⟨_, .single rfl, h _⟩
  | loop I J hstart hturn hleave _ _ => exact ⟨_, .single rfl, alike_turn hturn hleave (hturn _ _ hstart)⟩
  | unroll_left h _ => exact ⟨_, .refl, h⟩
  | unroll_right _ ih =>
    obtain ⟨d', hcomes, halike⟩ := ih
    exact ⟨d', .head rfl hcomes, halike⟩

/-- Programs that are alike have the same histories. -/
theorem alike_recorded (h : Alike P c d) (n : Nat) :
    ∃ m, (c.recorded oracle n).2 = (d.recorded oracle m).2 ∧
      Alike P (c.recorded oracle n).1 (d.recorded oracle m).1 := by
  induction n with
  | zero => exact ⟨0, rfl, h⟩
  | succ n ih =>
    obtain ⟨m, hhistory, halike⟩ := ih
    obtain ⟨d', hcomes, halike'⟩ := alike_advance oracle halike (c.recorded oracle n).2
    have hstart : ((d.recorded oracle m).1, (c.recorded oracle n).2) = d.recorded oracle m := by rw [hhistory]
    rw [hstart] at hcomes
    obtain ⟨m', hrecorded⟩ := exists_recorded hcomes
    refine ⟨m', ?_, ?_⟩
    · rw [hrecorded]
      rfl
    · rw [hrecorded]
      exact halike'

end Program

end program
