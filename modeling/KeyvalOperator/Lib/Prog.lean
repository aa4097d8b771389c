import Mathlib.Data.List.Infix
import Mathlib.Tactic.Common

/-!
# Programs that talk to an environment

A program over a signature `E` sends requests and continues with the reply (`Prog E α`): the
environment is everything the program does not decide, so a statement about every sequence of
replies is a statement about every run (`Runs p t a`: the run with the events `t` ends with `a`).

* `runs_bind`, `runs_call`, `runs_ret`: a run of a composed program is a run of its parts.
* `Issues R P p`: in runs whose events satisfy `R`, every request satisfies `P` (`Issues.bind`,
  `Issues.forErr`).
* `Traces T p`: the events of every run form a trace in `T`; `Absorbs P T` composes such statements
  with `Asks P`.
* `Yields Q p`: every run ends with a result that satisfies `Q`.
* `Refines R p q`: every run of `p` has a run of `q` with a related result.
* `World`: a state that the events change (`after`) and that restricts the replies (`Admits`).
* `play`: the run against an environment that answers from the state, as a function.
* `forErr`: a loop over a list that stops at the first error.
-/

namespace Interact

open List

/-- The requests of an interface and the type of the reply to each. -/
structure Sig where
  Req : Type
  Rep : Req → Type

/-- A request with the reply it received. -/
structure Event (E : Sig) where
  req : E.Req
  rep : E.Rep req

/-- A program: a result, or a request and what to do with its reply. -/
inductive Prog (E : Sig) (α : Type) : Type
  | ret (a : α)
  | call (q : E.Req) (k : E.Rep q → Prog E α)

namespace Prog

variable {E : Sig} {α β γ σ ε S : Type}

def bind : Prog E α → (α → Prog E β) → Prog E β
  | .ret a, f => f a
  | .call q k, f => .call q fun r => (k r).bind f

instance : Monad (Prog E) where
  pure := .ret
  bind := bind

@[simp] theorem pure_eq (a : α) : (pure a : Prog E α) = .ret a := rfl

@[simp] theorem bind_eq (p : Prog E α) (f : α → Prog E β) : p >>= f = p.bind f := rfl

@[simp] theorem ret_bind (a : α) (f : α → Prog E β) : (ret a : Prog E α).bind f = f a := rfl

@[simp] theorem call_bind (q : E.Req) (k : E.Rep q → Prog E α) (f : α → Prog E β) :
    (call q k).bind f = .call q fun r => (k r).bind f := rfl

theorem bind_assoc (p : Prog E α) (f : α → Prog E β) (g : β → Prog E γ) :
    (p.bind f).bind g = p.bind fun a => (f a).bind g := by
  induction p with
  | ret a => rfl
  | call q k ih => simp only [call_bind, ih]

/-! ## Runs -/

/-- `Runs p t a`: with the replies recorded in `t`, the program `p` ends with the result `a`. -/
inductive Runs : Prog E α → List (Event E) → α → Prop
  | ret (a : α) : Runs (.ret a) [] a
  | call {q : E.Req} {k : E.Rep q → Prog E α} (r : E.Rep q) {t : List (Event E)} {a : α} :
      Runs (k r) t a → Runs (.call q k) (⟨q, r⟩ :: t) a

variable {t : List (Event E)} {p : Prog E α} {f : α → Prog E β} {q : E.Req}
  {k : E.Rep q → Prog E α} {a : α}

@[simp] theorem runs_ret {a b : α} : Runs (.ret a : Prog E α) t b ↔ t = [] ∧ b = a := by
  refine ⟨fun h => ?_, ?_⟩
  · cases h
    exact ⟨rfl, rfl⟩
  · rintro ⟨rfl, rfl⟩
    exact .ret b

theorem runs_call :
    Runs (.call q k) t a ↔ ∃ r t', t = ⟨q, r⟩ :: t' ∧ Runs (k r) t' a := by
  refine ⟨fun h => ?_, ?_⟩
  · cases h with
    | call r h => exact ⟨r, _, rfl, h⟩
  · rintro ⟨r, t', rfl, h⟩
    exact .call r h

theorem runs_bind {b : β} :
    Runs (p.bind f) t b ↔ ∃ t1 a t2, t = t1 ++ t2 ∧ Runs p t1 a ∧ Runs (f a) t2 b := by
  induction p generalizing t with
  | ret a =>
    simp only [ret_bind, runs_ret]
    refine ⟨fun h => ⟨[], a, t, rfl, ⟨rfl, rfl⟩, h⟩, ?_⟩
    rintro ⟨t1, a', t2, rfl, ⟨rfl, rfl⟩, h⟩
    exact h
  | call q k ih =>
    simp only [call_bind, runs_call, ih]
    constructor
    · rintro ⟨r, t', rfl, t1, a, t2, rfl, h1, h2⟩
      exact ⟨⟨q, r⟩ :: t1, a, t2, rfl, ⟨r, t1, rfl, h1⟩, h2⟩
    · rintro ⟨_, a, t2, rfl, ⟨r, t1, rfl, h1⟩, h2⟩
      exact ⟨r, t1 ++ t2, rfl, t1, a, t2, rfl, h1, h2⟩

theorem Runs.bind {t1 t2 : List (Event E)} {b : β} (h1 : Runs p t1 a) (h2 : Runs (f a) t2 b) :
    Runs (p.bind f) (t1 ++ t2) b :=
  runs_bind.2 ⟨t1, a, t2, rfl, h1, h2⟩

/-- The run of `p` with the same reply to every request of one kind. -/
def answer (r : (q : E.Req) → E.Rep q) : Prog E α → List (Event E) × α
  | .ret a => ([], a)
  | .call q k => (⟨q, r q⟩ :: (answer r (k (r q))).1, (answer r (k (r q))).2)

theorem runs_answer (r : (q : E.Req) → E.Rep q) (p : Prog E α) :
    Runs p (answer r p).1 (answer r p).2 := by
  induction p with
  | ret a => exact .ret a
  | call q k ih => exact .call _ (ih (r q))

theorem answer_rep (r : (q : E.Req) → E.Rep q) (p : Prog E α) :
    ∀ e ∈ (answer r p).1, e.rep = r e.req := by
  induction p with
  | ret a => exact forall_mem_nil _
  | call q k ih => exact forall_mem_cons.2 ⟨rfl, ih (r q)⟩

theorem exists_run (r : (q : E.Req) → E.Rep q) (p : Prog E α) :
    ∃ t a, Runs p t a ∧ ∀ e ∈ t, e.rep = r e.req :=
  ⟨_, _, runs_answer r p, answer_rep r p⟩

theorem Runs.unique {r : (q : E.Req) → E.Rep q} {t t' : List (Event E)} {a a' : α}
    (h : Runs p t a) (h' : Runs p t' a') (ht : ∀ e ∈ t, e.rep = r e.req)
    (ht' : ∀ e ∈ t', e.rep = r e.req) : t = t' ∧ a = a' := by
  induction h generalizing t' with
  | ret a =>
    obtain ⟨rfl, rfl⟩ := runs_ret.1 h'
    exact ⟨rfl, rfl⟩
  | @call q k rep t a _ ih =>
    obtain ⟨rep', u, rfl, hu⟩ := runs_call.1 h'
    obtain ⟨hrep, hrest⟩ := forall_mem_cons.1 ht
    obtain ⟨hrep', hrest'⟩ := forall_mem_cons.1 ht'
    obtain rfl : rep = r q := hrep
    obtain rfl : rep' = r q := hrep'
    obtain ⟨rfl, rfl⟩ := ih hu hrest hrest'
    exact ⟨rfl, rfl⟩

/-- What follows a run of the first part is a run of the second. -/
theorem Runs.of_bind {t' : List (Event E)} {b : β} (h : Runs p t a)
    (h' : Runs (p.bind f) (t ++ t') b) : Runs (f a) t' b := by
  induction h with
  | ret a => exact h'
  | call r _ ih =>
    obtain ⟨r', u, heq, hu⟩ := runs_call.1 h'
    obtain ⟨hevent, rfl⟩ := List.cons.inj heq
    cases hevent
    exact ih hu

theorem Runs.exists_bind (r : (q : E.Req) → E.Rep q) (h : Runs p t a) :
    ∃ t' b, Runs (p.bind f) (t ++ t') b ∧ ∀ e ∈ t', e.rep = r e.req := by
  obtain ⟨t', b, h', hrep⟩ := exists_run r (f a)
  exact ⟨t', b, h.bind h', hrep⟩

/-! ## What a program asks for -/

/-- In every run of `p` whose events satisfy `R`, every request satisfies `P`. -/
inductive Issues (R : Event E → Prop) (P : E.Req → Prop) : Prog E α → Prop
  | ret (a : α) : Issues R P (.ret a)
  | call {q : E.Req} {k : E.Rep q → Prog E α} :
      P q → (∀ r, R ⟨q, r⟩ → Issues R P (k r)) → Issues R P (.call q k)

section
variable {R : Event E → Prop} {P P' : E.Req → Prop}

@[simp] theorem issues_ret (a : α) : Issues R P (.ret a : Prog E α) := .ret a

@[simp] theorem issues_call :
    Issues R P (.call q k) ↔ P q ∧ ∀ r, R ⟨q, r⟩ → Issues R P (k r) := by
  refine ⟨fun h => ?_, fun h => .call h.1 h.2⟩
  cases h with
  | call hq hk => exact ⟨hq, hk⟩

theorem Issues.bind (hp : Issues R P p) (hf : ∀ a, Issues R P (f a)) : Issues R P (p.bind f) := by
  induction hp with
  | ret a => exact hf a
  | call hq _ ih => exact .call hq ih

/-- The rule for a sequence whose second part uses the run of the first. -/
theorem Issues.bind_of (hp : Issues R P p)
    (hf : ∀ t a, Runs p t a → (∀ e ∈ t, R e) → Issues R P (f a)) : Issues R P (p.bind f) := by
  induction hp with
  | ret a => exact hf [] a (.ret a) (forall_mem_nil _)
  | call hq _ ih =>
    exact .call hq fun r hr => ih r hr fun t a h ht =>
      hf _ a (.call r h) (forall_mem_cons.2 ⟨hr, ht⟩)

theorem Issues.mono (h : Issues R P p) (hP : ∀ q, P q → P' q) : Issues R P' p := by
  induction h with
  | ret a => exact .ret a
  | call hq _ ih => exact .call (hP _ hq) ih

theorem Issues.restrict {R' : Event E → Prop} (h : Issues R P p) (hR : ∀ e, R' e → R e) :
    Issues R' P p := by
  induction h with
  | ret a => exact .ret a
  | call hq _ ih => exact .call hq fun r hr => ih r (hR _ hr)

theorem Issues.mem (h : Issues R P p) (hr : Runs p t a) (hR : ∀ e ∈ t, R e) : ∀ e ∈ t, P e.req := by
  induction hr with
  | ret a => simp
  | call r _ ih =>
    obtain ⟨hq, hk⟩ := issues_call.1 h
    intro e he
    rcases mem_cons.1 he with rfl | he
    · exact hq
    · exact ih (hk r (hR _ (.head _))) (fun e he => hR e (.tail _ he)) e he

end

/-- In every run of `p` every request satisfies `P`. -/
abbrev Asks (P : E.Req → Prop) (p : Prog E α) : Prop := Issues (fun _ => True) P p

theorem Asks.mem {P : E.Req → Prop} (h : Asks P p) (hr : Runs p t a) : ∀ e ∈ t, P e.req :=
  Issues.mem h hr fun _ _ => trivial

/-! ## Traces -/

/-- The events of every run of `p` form a trace in `T`. -/
def Traces (T : List (Event E) → Prop) (p : Prog E α) : Prop := ∀ t a, Runs p t a → T t

/-- A trace of `T` may be preceded by any requests that satisfy `P`. -/
structure Absorbs (P : E.Req → Prop) (T : List (Event E) → Prop) : Prop where
  nil : T []
  cons : ∀ e t, P e.req → T t → T (e :: t)

section
variable {P : E.Req → Prop} {T : List (Event E) → Prop}

theorem Absorbs.append (h : Absorbs P T) {t1 t2 : List (Event E)} (h1 : ∀ e ∈ t1, P e.req)
    (h2 : T t2) : T (t1 ++ t2) := by
  induction t1 with
  | nil => exact h2
  | cons e t ih =>
    obtain ⟨he, ht⟩ := forall_mem_cons.1 h1
    exact h.cons e _ he (ih ht)

theorem Absorbs.of_forall (h : Absorbs P T) (ht : ∀ e ∈ t, P e.req) : T t := by
  rw [← append_nil t]
  exact h.append ht h.nil

theorem Absorbs.of_asks (h : Absorbs P T) (hp : Asks P p) : Traces T p :=
  fun _ _ hr => h.of_forall (hp.mem hr)

theorem Absorbs.bind (h : Absorbs P T) (hp : Asks P p)
    (hf : ∀ t a, Runs p t a → Traces T (f a)) : Traces T (p.bind f) := by
  intro t b hr
  obtain ⟨t1, a, t2, rfl, h1, h2⟩ := runs_bind.1 hr
  exact h.append (hp.mem h1) (hf t1 a h1 t2 b h2)

end

/-! ## What a program returns -/

/-- Every run of `p` ends with a result that satisfies `Q`. -/
inductive Yields (Q : α → Prop) : Prog E α → Prop
  | ret {a : α} : Q a → Yields Q (.ret a)
  | call {q : E.Req} {k : E.Rep q → Prog E α} : (∀ r, Yields Q (k r)) → Yields Q (.call q k)

@[simp] theorem yields_ret {Q : α → Prop} : Yields Q (.ret a : Prog E α) ↔ Q a := by
  refine ⟨fun h => ?_, .ret⟩
  cases h with
  | ret hq => exact hq

@[simp] theorem yields_call {Q : α → Prop} : Yields Q (.call q k) ↔ ∀ r, Yields Q (k r) := by
  refine ⟨fun h => ?_, .call⟩
  cases h with
  | call hk => exact hk

theorem Yields.of_runs {Q : α → Prop} (h : Yields Q p) (hr : Runs p t a) : Q a := by
  induction hr with
  | ret a => exact yields_ret.1 h
  | call r _ ih => exact ih (yields_call.1 h r)

theorem Yields.bind {Q : α → Prop} {Q' : β → Prop} (hp : Yields Q p)
    (hf : ∀ a, Q a → Yields Q' (f a)) : Yields Q' (p.bind f) := by
  induction hp with
  | ret hq => exact hf _ hq
  | call _ ih => exact .call ih

/-! ## Refinement -/

/-- Every run of `p` has a run of `q` with a related result. The requests may differ: one request of
`q` can stand for a part of `p`. -/
def Refines (R : α → β → Prop) (p : Prog E α) (q : Prog E β) : Prop :=
  ∀ t a, p.Runs t a → ∃ t' b, q.Runs t' b ∧ R a b

theorem Refines.refl {R : α → α → Prop} (hR : ∀ a, R a a) (p : Prog E α) : Refines R p p :=
  fun t a h => ⟨t, a, h, hR a⟩

theorem Refines.bind {δ : Type} {R : α → β → Prop} {S : γ → δ → Prop} {q : Prog E β}
    {f : α → Prog E γ} {g : β → Prog E δ} (h : Refines R p q)
    (hk : ∀ a b, R a b → Refines S (f a) (g b)) : Refines S (p.bind f) (q.bind g) := by
  intro t c hrun
  obtain ⟨t1, a, t2, rfl, hp, hf⟩ := runs_bind.1 hrun
  obtain ⟨t1', b, hq, hR⟩ := h t1 a hp
  obtain ⟨t2', d, hg, hS⟩ := hk a b hR t2 c hf
  exact ⟨t1' ++ t2', d, hq.bind hg, hS⟩

/-! ## Loops -/

/-- The loop `for x := range xs { s, err = f(s, x); if err != nil { return s, err } }`. -/
def forErr (f : σ → α → Prog E (σ × Option ε)) : List α → σ → Prog E (σ × Option ε)
  | [], s => .ret (s, none)
  | x :: xs, s => (f s x).bind fun
    | (s', some e) => .ret (s', some e)
    | (s', none) => forErr f xs s'

/-- A program for each element, in turn. -/
def mapAll (f : α → Prog E β) : List α → Prog E (List β)
  | [] => .ret []
  | x :: xs => (f x).bind fun b => (mapAll f xs).bind fun bs => .ret (b :: bs)

section
variable {f : σ → α → Prog E (σ × Option ε)}

theorem Issues.forErr {R : Event E → Prop} {P : E.Req → Prop} : ∀ {xs : List α} (s : σ),
    (∀ x ∈ xs, ∀ s, Issues R P (f s x)) → Issues R P (forErr f xs s)
  | [], _, _ => .ret _
  | x :: xs, s, h => by
    refine (h x (.head _) s).bind fun r => ?_
    match r with
    | (_, some _) => exact .ret _
    | (s', none) => exact Issues.forErr s' fun y hy => h y (.tail _ hy)

theorem Issues.mapAll {R : Event E → Prop} {P : E.Req → Prop} {g : α → Prog E β} :
    ∀ {xs : List α}, (∀ x ∈ xs, Issues R P (g x)) → Issues R P (mapAll g xs)
  | [], _ => .ret _
  | x :: xs, h => by
    refine (h x (.head _)).bind fun b => ?_
    exact (Issues.mapAll fun y hy => h y (.tail _ hy)).bind fun _ => .ret _

theorem Issues.foldlM {R : Event E → Prop} {P : E.Req → Prop} {g : σ → α → Prog E σ} :
    ∀ {xs : List α} (s : σ), (∀ x ∈ xs, ∀ s, Issues R P (g s x)) → Issues R P (xs.foldlM g s)
  | [], _, _ => .ret _
  | x :: xs, s, h => by
    rw [foldlM_cons]
    exact (h x (.head _) s).bind fun s' => Issues.foldlM s' fun y hy => h y (.tail _ hy)

/-- **Loop rule** for the result: a state property that every element keeps holds after the loop,
also one that stops. -/
theorem Yields.forErr {I : σ → Prop} (h : ∀ s x, I s → Yields (fun o => I o.1) (f s x)) :
    ∀ {xs : List α} {s : σ}, I s → Yields (fun o => I o.1) (forErr f xs s)
  | [], _, hs => .ret hs
  | x :: xs, s, hs => by
    refine (h s x hs).bind fun o ho => ?_
    match o with
    | (_, some _) => exact .ret ho
    | (s', none) => exact Yields.forErr h ho

theorem runs_forErr_cons {x : α} {xs : List α} {s : σ} {o : σ × Option ε} :
    Runs (forErr f (x :: xs) s) t o ↔
      (∃ e, o.2 = some e ∧ Runs (f s x) t o) ∨
      ∃ t1 s' t2, t = t1 ++ t2 ∧ Runs (f s x) t1 (s', none) ∧ Runs (forErr f xs s') t2 o := by
  simp only [forErr, runs_bind]
  constructor
  · rintro ⟨t1, ⟨s', _ | e⟩, t2, rfl, h1, h2⟩
    · exact .inr ⟨t1, s', t2, rfl, h1, h2⟩
    · obtain ⟨rfl, rfl⟩ := runs_ret.1 h2
      exact .inl ⟨e, rfl, by simpa using h1⟩
  · rintro (⟨e, he, h⟩ | ⟨t1, s', t2, rfl, h1, h2⟩)
    · obtain ⟨s', _⟩ := o
      subst he
      exact ⟨t, (s', some e), [], by simp, h, runs_ret.2 ⟨rfl, rfl⟩⟩
    · exact ⟨t1, (s', none), t2, rfl, h1, h2⟩

theorem Runs.forErr_error {xs : List α} {s s' : σ} {e : ε}
    (hr : Runs (Prog.forErr f xs s) t (s', some e)) :
    ∃ x ∈ xs, ∃ s1 t1 t2, t = t1 ++ t2 ∧ Runs (f s1 x) t2 (s', some e) := by
  induction xs generalizing s t with
  | nil => cases (runs_ret.1 hr).2
  | cons x xs ih =>
    rcases runs_forErr_cons.1 hr with ⟨_, -, hx⟩ | ⟨t1, s1, t2, rfl, -, hxs⟩
    · exact ⟨x, .head _, s, [], t, rfl, hx⟩
    · obtain ⟨y, hy, s2, u1, u2, rfl, hrun⟩ := ih hxs
      exact ⟨y, .tail _ hy, s2, t1 ++ u1, u2, (append_assoc _ _ _).symm, hrun⟩

/-- **Loop rule** for the events: a state property that every element keeps, and under which its
events satisfy `Q`, holds after the loop, also one that stops, and all its events satisfy `Q`. -/
theorem Runs.forErr_events {I : σ → Prop} {R Q : Event E → Prop} {xs : List α} {s : σ}
    {o : σ × Option ε} (hr : Runs (Prog.forErr f xs s) t o) (hs : I s) (hR : ∀ e ∈ t, R e)
    (hstep : ∀ x ∈ xs, ∀ s t o, I s → (∀ e ∈ t, R e) → Runs (f s x) t o →
      I o.1 ∧ ∀ e ∈ t, Q e) : I o.1 ∧ ∀ e ∈ t, Q e := by
  induction xs generalizing s t with
  | nil =>
    obtain ⟨rfl, rfl⟩ := runs_ret.1 hr
    exact ⟨hs, fun e he => by cases he⟩
  | cons x xs ih =>
    rcases runs_forErr_cons.1 hr with ⟨e, -, hx⟩ | ⟨t1, s1, t2, rfl, hx, hxs⟩
    · exact hstep x (.head _) s t o hs hR hx
    · rw [forall_mem_append] at hR ⊢
      obtain ⟨h1, hQ1⟩ := hstep x (.head _) s t1 _ hs hR.1 hx
      obtain ⟨h2, hQ2⟩ := ih hxs h1 hR.2 fun y hy => hstep y (.tail _ hy)
      exact ⟨h2, hQ1, hQ2⟩

/-- **Loop rule** for the outcome: when each element ends without error exactly if all its events
satisfy `Q`, so does the loop. -/
theorem Runs.forErr_none_iff {Q : Event E → Prop} {xs : List α} {s : σ} {o : σ × Option ε}
    (hr : Runs (Prog.forErr f xs s) t o)
    (hstep : ∀ x ∈ xs, ∀ s t o, Runs (f s x) t o → (o.2 = none ↔ ∀ e ∈ t, Q e)) :
    o.2 = none ↔ ∀ e ∈ t, Q e := by
  induction xs generalizing s t with
  | nil =>
    obtain ⟨rfl, rfl⟩ := runs_ret.1 hr
    simp
  | cons x xs ih =>
    rcases runs_forErr_cons.1 hr with ⟨e, -, hx⟩ | ⟨t1, s1, t2, rfl, hx, hxs⟩
    · exact hstep x (.head _) s t o hx
    · rw [forall_mem_append, ← ih hxs fun y hy => hstep y (.tail _ hy)]
      have hfirst := (hstep x (.head _) s t1 _ hx).1 rfl
      exact (and_iff_right hfirst).symm

theorem Runs.forErr_mem {xs : List α} {x : α} {s s' : σ}
    (hr : Runs (Prog.forErr f xs s) t (s', none)) (hx : x ∈ xs) :
    ∃ l1 l2 s1 s2 t1 t2 t3, xs = l1 ++ x :: l2 ∧ t = t1 ++ (t2 ++ t3) ∧
      Runs (Prog.forErr f l1 s) t1 (s1, none) ∧ Runs (f s1 x) t2 (s2, none) ∧
      Runs (Prog.forErr f l2 s2) t3 (s', none) := by
  induction xs generalizing s t with
  | nil => cases hx
  | cons y xs ih =>
    rcases runs_forErr_cons.1 hr with ⟨e, he, -⟩ | ⟨t1, s1, t2, rfl, hy, hxs⟩
    · cases he
    rcases mem_cons.1 hx with rfl | hx
    · exact ⟨[], xs, s, s1, [], t1, t2, rfl, rfl, runs_ret.2 ⟨rfl, rfl⟩, hy, hxs⟩
    · obtain ⟨l1, l2, u1, u2, v1, v2, v3, rfl, rfl, h1, h2, h3⟩ := ih hxs hx
      exact ⟨y :: l1, l2, u1, u2, t1 ++ v1, v2, v3, rfl, (append_assoc _ _ _).symm,
        runs_forErr_cons.2 (.inr ⟨t1, s1, v1, rfl, hy, h1⟩), h2, h3⟩

/-- **Loop rule**: what holds before the loop and is kept by each element that goes through, holds
after a loop that meets no error. `I done t s` speaks of the elements done, the events so far (an
initial part of the whole run) and the state. -/
theorem Runs.forErr_inv {I : List α → List (Event E) → σ → Prop} {xs : List α} {s s' : σ}
    (hr : Runs (Prog.forErr f xs s) t (s', none)) (h0 : I [] [] s)
    (hstep : ∀ done x t0 s t1 s1, done ++ [x] <+: xs → t0 ++ t1 <+: t → I done t0 s →
      Runs (f s x) t1 (s1, none) → I (done ++ [x]) (t0 ++ t1) s1) : I xs t s' := by
  suffices H : ∀ (ys done : List α) (s : σ) (t0 t1 : List (Event E)), done ++ ys = xs →
      t0 ++ t1 = t → I done t0 s → Runs (Prog.forErr f ys s) t1 (s', none) → I xs t s' from
    H xs [] s [] t rfl rfl h0 hr
  intro ys
  induction ys with
  | nil =>
    intro done s t0 t1 hxs ht hI hr
    obtain ⟨rfl, heq⟩ := runs_ret.1 hr
    obtain ⟨rfl, -⟩ := Prod.mk.inj heq
    rw [append_nil] at hxs ht
    exact hxs ▸ ht ▸ hI
  | cons x ys ih =>
    intro done s t0 t1 hxs ht hI hr
    rcases runs_forErr_cons.1 hr with ⟨e, he, -⟩ | ⟨u1, s1, u2, rfl, hx, hys⟩
    · cases he
    · refine ih (done ++ [x]) s1 (t0 ++ u1) u2 ?_ ?_ (hstep done x t0 s u1 s1 ?_ ?_ hI hx) hys
      · rw [append_assoc]
        exact hxs
      · rw [append_assoc]
        exact ht
      · exact ⟨ys, by rw [← hxs, append_assoc]; rfl⟩
      · exact ⟨u2, by rw [← ht, append_assoc]⟩

end

end Prog

/-! ## Worlds -/

/-- A state of the environment: how each event changes it and which replies it allows. -/
structure World (E : Sig) (S : Type) where
  step : S → Event E → S
  ok : S → Event E → Prop

namespace World

variable {E : Sig} {α β S : Type} (W : World E S)

/-- The state after the events `t`. -/
def after (s : S) (t : List (Event E)) : S := t.foldl W.step s

@[simp] theorem after_nil (s : S) : W.after s [] = s := rfl

@[simp] theorem after_cons (s : S) (e : Event E) (t : List (Event E)) :
    W.after s (e :: t) = W.after (W.step s e) t := rfl

@[simp] theorem after_append (s : S) (t1 t2 : List (Event E)) :
    W.after s (t1 ++ t2) = W.after (W.after s t1) t2 := foldl_append

/-- Every event of `t`, taken in turn from `s`, has an allowed reply. -/
def Admits : S → List (Event E) → Prop
  | _, [] => True
  | s, e :: t => W.ok s e ∧ Admits (W.step s e) t

@[simp] theorem admits_nil (s : S) : W.Admits s [] := trivial

@[simp] theorem admits_cons {s : S} {e : Event E} {t : List (Event E)} :
    W.Admits s (e :: t) ↔ W.ok s e ∧ W.Admits (W.step s e) t := Iff.rfl

theorem admits_append {s : S} {t1 t2 : List (Event E)} :
    W.Admits s (t1 ++ t2) ↔ W.Admits s t1 ∧ W.Admits (W.after s t1) t2 := by
  induction t1 generalizing s with
  | nil => simp
  | cons e t ih => simp [ih, and_assoc]

theorem Admits.mem {R : Event E → Prop} (hR : ∀ s e, W.ok s e → R e) {s : S}
    {t : List (Event E)} (h : W.Admits s t) : ∀ e ∈ t, R e := by
  induction t generalizing s with
  | nil => simp
  | cons e t ih =>
    intro e' he'
    rcases mem_cons.1 he' with rfl | he'
    · exact hR s _ h.1
    · exact ih h.2 e' he'

theorem after_inv {I : S → Prop} {s : S} {t : List (Event E)} (hs : I s)
    (h : ∀ e ∈ t, ∀ s, I s → I (W.step s e)) : I (W.after s t) := by
  induction t generalizing s with
  | nil => exact hs
  | cons e t ih => exact ih (h e (.head _) s hs) fun e' he' => h e' (.tail _ he')

/-! ### Answering from the state -/

/-- The run of `p` from `s` against an environment that answers `r s q`. -/
def play (r : S → (q : E.Req) → E.Rep q) : S → Prog E α → List (Event E) × α
  | _, .ret a => ([], a)
  | s, .call q k =>
    let e : Event E := ⟨q, r s q⟩
    let rest := play r (W.step s e) (k (r s q))
    (e :: rest.1, rest.2)

section
variable {W} {r : S → (q : E.Req) → E.Rep q}

@[simp] theorem play_ret (s : S) (a : α) : W.play r s (.ret a) = ([], a) := rfl

@[simp] theorem play_call (s : S) (q : E.Req) (k : E.Rep q → Prog E α) :
    W.play r s (.call q k) =
      (⟨q, r s q⟩ :: (W.play r (W.step s ⟨q, r s q⟩) (k (r s q))).1,
        (W.play r (W.step s ⟨q, r s q⟩) (k (r s q))).2) := rfl

theorem play_bind (s : S) (p : Prog E α) (f : α → Prog E β) :
    W.play r s (p.bind f) =
      ((W.play r s p).1 ++
          (W.play r (W.after s (W.play r s p).1) (f (W.play r s p).2)).1,
        (W.play r (W.after s (W.play r s p).1) (f (W.play r s p).2)).2) := by
  induction p generalizing s with
  | ret a => rfl
  | call q k ih => simp [ih]

/-- **Loop rule**: a loop meets no error when no element does, from any state that satisfies an
invariant. -/
theorem play_forErr {σ ε : Type} {f : σ → α → Prog E (σ × Option ε)} {I : S → Prop} {xs : List α}
    (h : ∀ x ∈ xs, ∀ a s, I s → I (W.after s (W.play r s (f a x)).1) ∧
      (W.play r s (f a x)).2.2 = none) {s : S} (hs : I s) (a : σ) :
    I (W.after s (W.play r s (Prog.forErr f xs a)).1) ∧
      (W.play r s (Prog.forErr f xs a)).2.2 = none := by
  induction xs generalizing s a with
  | nil => exact ⟨hs, rfl⟩
  | cons x xs ih =>
    obtain ⟨hx, hnone⟩ := h x (.head _) a s hs
    rw [Prog.forErr, play_bind, after_append]
    generalize (W.play r s (f a x)).2 = o at hnone
    obtain ⟨a', _⟩ := o
    cases hnone
    exact ih (fun y hy => h y (.tail _ hy)) hx a'

theorem runs_play (s : S) (p : Prog E α) : p.Runs (W.play r s p).1 (W.play r s p).2 := by
  induction p generalizing s with
  | ret a => exact .ret a
  | call q k ih => exact .call _ (ih _ _)

theorem admits_play_inv {I : S → Prop}
    (h : ∀ s q, I s → W.ok s ⟨q, r s q⟩ ∧ I (W.step s ⟨q, r s q⟩)) {s : S} (hs : I s)
    (p : Prog E α) : W.Admits s (W.play r s p).1 := by
  induction p generalizing s with
  | ret a => trivial
  | call q k ih => exact ⟨(h s q hs).1, ih _ (h s q hs).2⟩

theorem admits_play (h : ∀ s q, W.ok s ⟨q, r s q⟩) (s : S) (p : Prog E α) :
    W.Admits s (W.play r s p).1 :=
  admits_play_inv (I := fun _ => True) (fun s q _ => ⟨h s q, trivial⟩) trivial p

theorem play_rep (s : S) (p : Prog E α) : ∀ e ∈ (W.play r s p).1, ∃ s', e.rep = r s' e.req := by
  induction p generalizing s with
  | ret a => exact forall_mem_nil _
  | call q k ih => exact forall_mem_cons.2 ⟨⟨s, rfl⟩, ih _ _⟩

end

end World

end Interact
