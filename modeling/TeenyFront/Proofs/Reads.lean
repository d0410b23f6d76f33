import TeenyFront.Proofs.Derivation
import TeenyFront.Proofs.Walk

/-!
# Phrases and what they read

A phrase reads a type of derivations when its walks get through along the tokens of such a
derivation and of nothing else, and when a walk that is stuck could have gone on to one. The next
token tells where a derivation ends, so that no tokens have two. Blocks that nest too deep are the
only derivations that are refused.
-/

set_option autoImplicit false

namespace TeenyFront

open DerivationTree Phrase Walk

/-- There is a next token, and it does not belong to the kinds that would go on. -/
def Stops (ext : Kind → Bool) (ts : List Token) : Prop :=
  ∃ t us, ts = t :: us ∧ ext t.kind = false

def Begins (first : Kind → Bool) (ts : List Token) : Prop :=
  ∃ t us, ts = t :: us ∧ first t.kind = true

theorem Stops.append_cons {ext : Kind → Bool} {ts : List Token} (h : Stops ext ts)
    (us : List Token) : ∃ t vs, us ++ ts = t :: vs := by
  obtain ⟨t, vs, rfl, -⟩ := h
  cases us with
  | nil => exact ⟨t, vs, rfl⟩
  | cons u us => exact ⟨u, us ++ t :: vs, rfl⟩

theorem Begins.stops {first ext : Kind → Bool} {ts : List Token} (h : Begins first ts)
    (hk : ∀ k, first k = true → ext k = false) : Stops ext ts := by
  obtain ⟨t, us, rfl, ht⟩ := h
  exact ⟨t, us, rfl, hk _ ht⟩

theorem Begins.not_stops {p : Kind → Bool} {ts : List Token} (h : Begins p ts) :
    ¬Stops p ts := by
  rintro ⟨t, us, rfl, ht⟩
  obtain ⟨t', us', he, ht'⟩ := h
  obtain ⟨rfl, -⟩ := List.cons.inj he
  exact Bool.false_ne_true (ht.symm.trans ht')

theorem begins_or_stops (p : Kind → Bool) (t : Token) (ts : List Token) :
    Begins p (t :: ts) ∨ Stops p (t :: ts) := by
  cases ht : p t.kind with
  | true => exact .inl ⟨t, ts, rfl, ht⟩
  | false => exact .inr ⟨t, ts, rfl, ht⟩

/-- The kinds that a derivation of type `α` begins with, which has a token therefore. -/
def Opens (first : Kind → Bool) (α : Type) [DerivationTree α] : Prop :=
  ∀ (a : α) ts, Begins first (tokens a ++ ts)

theorem opens_leaf (p : Kind → Bool) : Opens p (Leaf p) := fun a ts => ⟨a.token, ts, rfl, a.holds⟩

namespace Opens

variable {first : Kind → Bool} {α β : Type} [DerivationTree α] [DerivationTree β]

theorem mono {first' : Kind → Bool} (h : Opens first α)
    (hk : ∀ k, first k = true → first' k = true) : Opens first' α := fun a ts => by
  obtain ⟨t, us, he, ht⟩ := h a ts
  exact ⟨t, us, he, hk _ ht⟩

theorem prod (h : Opens first α) : Opens first (α × β) := by
  rintro ⟨a, b⟩ ts
  rw [tokens_pair, List.append_assoc]
  exact h a _

theorem sum {first' : Kind → Bool} (ha : Opens first α) (hb : Opens first' β) :
    Opens (fun k => first k || first' k) (α ⊕ β)
  | .inl a, ts => ha.mono (fun _ hk => Bool.or_eq_true_iff.2 (.inl hk)) a ts
  | .inr b, ts => hb.mono (fun _ hk => Bool.or_eq_true_iff.2 (.inr hk)) b ts

theorem stops (h : Opens first α) {ext : Kind → Bool} (hk : ∀ k, first k = true → ext k = false)
    (a : α) (ts : List Token) : Stops ext (tokens a ++ ts) := (h a ts).stops hk

theorem stops_items {ext ext' : Kind → Bool} (h : Opens first α)
    (hf : ∀ k, first k = true → ext k = false) (hx : ∀ k, ext' k = false → ext k = false)
    (as : List α) {ts : List Token} (ht : Stops ext' ts) : Stops ext (tokens as ++ ts) := by
  cases as with
  | nil =>
    obtain ⟨t, us, rfl, hk⟩ := ht
    exact ⟨t, us, rfl, hx _ hk⟩
  | cons a as =>
    rw [tokens_cons, List.append_assoc]
    exact (h a _).stops hf

theorem node {rule : Rule} (h : Opens first α) : Opens first (Node rule α) :=
  fun a ts => h a.parts ts

end Opens

def noKind : Kind → Bool := fun _ => false

theorem Stops.append {ext : Kind → Bool} {ts : List Token} (h : Stops ext ts)
    (us : List Token) : Stops noKind (us ++ ts) := by
  obtain ⟨t, vs, he⟩ := h.append_cons us
  exact ⟨t, vs, he, rfl⟩

def tooDeep : SyntaxCause := .nestedTooDeep nestingLimit

/-- The walks of `f` read derivations of type `α` whose blocks nest at most `n` deep, when these
are followed by a token whose kind is not in `ext`. -/
structure Reads (n : Nat) (f : List Token → Walk) (α : Type) [DerivationTree α]
    (ext : Kind → Bool) : Prop where
  nonempty : Nonempty α
  sound : ∀ ts, (f ts).outcome = .through →
    ∃ a : α, depth a ≤ n ∧ (f ts).taken = tokens a ∧ (f ts).events = events a
  complete : ∀ (a : α) ts, Stops ext ts → depth a ≤ n →
    (f (tokens a ++ ts)).outcome = .through ∧ (f (tokens a ++ ts)).rest = ts
  deep : ∀ (a : α) ts, Stops ext ts → n < depth a →
    (f (tokens a ++ ts)).outcome = .stuck tooDeep
  viable : ∀ ts cause, (f ts).outcome = .stuck cause → cause ≠ tooDeep →
    ∃ a : α, (f ts).taken <+: tokens a
  unique : ∀ (a b : α) ts us, tokens a ++ ts = tokens b ++ us → Stops ext ts → Stops ext us →
    depth a ≤ n → depth b ≤ n → a = b

namespace Reads

variable {n : Nat} {f : List Token → Walk} {φ ψ : Phrase} {α β : Type} [DerivationTree α]
  [DerivationTree β] {ext ext' : Kind → Bool}

theorem mono (h : Reads n f α ext) (he : ∀ k, ext k = true → ext' k = true) :
    Reads n f α ext' := by
  have hs : ∀ ts, Stops ext' ts → Stops ext ts := by
    rintro ts ⟨t, us, rfl, ht⟩
    refine ⟨t, us, rfl, ?_⟩
    cases hk : ext t.kind with
    | false => rfl
    | true => rw [he _ hk] at ht; cases ht
  exact ⟨h.nonempty, h.sound, fun a ts ht => h.complete a ts (hs ts ht),
    fun a ts ht => h.deep a ts (hs ts ht), h.viable,
    fun a b ts us he ht hu => h.unique a b ts us he (hs ts ht) (hs us hu)⟩

theorem closed (h : Reads n f α noKind) : Reads n f α ext :=
  h.mono fun _ hk => absurd hk Bool.false_ne_true

theorem map (h : Reads n f α ext) (g : α → β) (hg : ∀ b, ∃ a, g a = b)
    (ht : ∀ a, tokens (g a) = tokens a) (hv : ∀ a, events (g a) = events a)
    (hd : ∀ a, depth (g a) = depth a) : Reads n f β ext where
  nonempty := h.nonempty.elim fun a => ⟨g a⟩
  sound ts ho := by
    obtain ⟨a, hda, hta, hva⟩ := h.sound ts ho
    exact ⟨g a, by rw [hd]; exact hda, by rw [ht]; exact hta, by rw [hv]; exact hva⟩
  complete b ts hs hdb := by
    obtain ⟨a, rfl⟩ := hg b
    rw [ht]
    exact h.complete a ts hs (hd a ▸ hdb)
  deep b ts hs hdb := by
    obtain ⟨a, rfl⟩ := hg b
    rw [ht]
    exact h.deep a ts hs (hd a ▸ hdb)
  viable ts cause ho hc := by
    obtain ⟨a, ha⟩ := h.viable ts cause ho hc
    exact ⟨g a, ht a ▸ ha⟩
  unique b b' ts us he hs hs' hdb hdb' := by
    obtain ⟨a, rfl⟩ := hg b
    obtain ⟨a', rfl⟩ := hg b'
    rw [ht, ht] at he
    rw [h.unique a a' ts us he hs hs' (hd a ▸ hdb) (hd a' ▸ hdb')]

theorem walk_eq (h : Reads n φ.walk α ext) (a : α) {ts : List Token} (hs : Stops ext ts)
    (hd : depth a ≤ n) :
    ∃ ms, φ.walk (tokens a ++ ts) = ⟨.through, ts, ms⟩ ∧
      ms.filterMap Move.event? = events a := by
  obtain ⟨ho, hr⟩ := h.complete a ts hs hd
  obtain ⟨b, hdb, ht, hv⟩ := h.sound _ ho
  have hsplit := (φ.walk_along (tokens a ++ ts)).split
  rw [hr, ht] at hsplit
  have hba := h.unique b a ts ts hsplit hs hs hdb hd
  generalize φ.walk (tokens a ++ ts) = w at ho hr hv
  obtain ⟨outcome, rest, moves⟩ := w
  cases ho
  cases hr
  exact ⟨moves, rfl, hba ▸ hv⟩

theorem done : Reads n Phrase.done.walk Unit ext where
  nonempty := ⟨()⟩
  sound ts _ := ⟨(), Nat.zero_le n, rfl, rfl⟩
  complete _ ts _ _ := ⟨rfl, rfl⟩
  deep _ ts _ hd := absurd hd (Nat.not_lt_zero n)
  viable ts cause ho := by cases ho
  unique _ _ _ _ _ _ _ _ _ := rfl

theorem leaf {p : Kind → Bool} [h : Nonempty (Leaf p)] (hp : p .eof = false)
    (cause : SyntaxCause) : Reads n (accept p hp cause).walk (Leaf p) ext where
  nonempty := h
  sound ts ho := by
    cases ts with
    | nil => cases ho
    | cons t ts =>
      cases ht : p t.kind with
      | false =>
        rw [walk, accept_neg ht] at ho
        cases ho
      | true =>
        rw [walk, accept_pos ht]
        exact ⟨⟨t, ht⟩, Nat.zero_le n, rfl, rfl⟩
  complete a ts _ _ := by
    show (Walk.accept p cause (a.token :: ts)).outcome = _ ∧
      (Walk.accept p cause (a.token :: ts)).rest = _
    rw [accept_pos a.holds]
    exact ⟨rfl, rfl⟩
  deep _ ts _ hd := absurd hd (Nat.not_lt_zero n)
  viable ts cause' ho _ := by
    obtain ⟨a⟩ := h
    refine ⟨a, ?_⟩
    cases ts with
    | nil => cases ho
    | cons t ts =>
      cases ht : p t.kind with
      | false =>
        rw [walk, accept_neg ht]
        exact List.nil_prefix
      | true =>
        rw [walk, accept_pos ht] at ho
        cases ho
  unique b c ts us he _ _ _ _ := Leaf.ext (List.cons.inj he).1

theorem last (h : Reads n φ.walk α ext) : Reads n (φ.andThen .done).walk α ext := by
  rwa [walk_andThen_done]

theorem node {rule : Rule} (h : Reads n φ.walk α ext) :
    Reads n ((enter rule).andThen φ).walk (Node rule α) ext where
  nonempty := h.nonempty.elim fun a => ⟨⟨a⟩⟩
  sound ts ho := by
    cases ts with
    | nil => cases ho
    | cons t ts =>
      rw [enter, walk_enterWith] at ho ⊢
      obtain ⟨a, hd, ht, hv⟩ := h.sound (t :: ts) ho
      refine ⟨⟨a⟩, hd, ?_, ?_⟩
      · rw [after_taken, ht, tokens_node]
        rfl
      · rw [after_events, hv, events_node]
        rfl
  complete := by
    rintro ⟨a⟩ ts hs hd
    have hc := h.complete a ts hs hd
    obtain ⟨t, us, he⟩ := hs.append_cons (tokens a)
    rw [he] at hc
    rw [tokens_node, he, enter, walk_enterWith]
    exact hc
  deep := by
    rintro ⟨a⟩ ts hs hd
    have hc := h.deep a ts hs hd
    obtain ⟨t, us, he⟩ := hs.append_cons (tokens a)
    rw [he] at hc
    rw [tokens_node, he, enter, walk_enterWith]
    exact hc
  viable ts cause ho hc := by
    cases ts with
    | nil => cases ho
    | cons t ts =>
      rw [enter, walk_enterWith] at ho ⊢
      obtain ⟨a, ha⟩ := h.viable (t :: ts) cause ho hc
      exact ⟨⟨a⟩, ha⟩
  unique a b ts us he hs hs' hd hd' :=
    congrArg Node.mk (h.unique a.parts b.parts ts us he hs hs' hd hd')

section

variable (h : Reads n f α ext)

include h

/-- A derivation that is not too deep is got through, on to what comes next. -/
theorem complete_andThen {a : α} {ts : List Token} (hs : Stops ext ts) (hd : depth a ≤ n)
    (next : List Token → Walk) :
    ((f (tokens a ++ ts)).andThen next).outcome = (next ts).outcome ∧
      ((f (tokens a ++ ts)).andThen next).rest = (next ts).rest := by
  obtain ⟨ho, hr⟩ := h.complete a ts hs hd
  rw [andThen_through ho, hr]
  exact ⟨rfl, rfl⟩

theorem deep_andThen {a : α} {ts : List Token} (hs : Stops ext ts) (hd : n < depth a)
    (next : List Token → Walk) :
    ((f (tokens a ++ ts)).andThen next).outcome = .stuck tooDeep := by
  have ho := h.deep a ts hs hd
  rw [andThen_stuck ho]
  exact ho

/-- A walk that is stuck is so within a derivation or behind one. -/
theorem stuck_andThen {next : List Token → Walk} {ts : List Token} {cause : SyntaxCause}
    (ho : ((f ts).andThen next).outcome = .stuck cause) (hc : cause ≠ tooDeep) :
    (∃ a : α, ((f ts).andThen next).taken <+: tokens a) ∨
      ∃ a : α, (f ts).outcome = .through ∧ (next (f ts).rest).outcome = .stuck cause ∧
        ((f ts).andThen next).taken = tokens a ++ (next (f ts).rest).taken := by
  by_cases hf : (f ts).outcome = .through
  · obtain ⟨a, -, ht, -⟩ := h.sound ts hf
    rw [andThen_through hf] at ho
    exact .inr ⟨a, hf, ho, by rw [taken_andThen hf, ht]⟩
  · rw [andThen_not_through hf] at ho ⊢
    exact .inl (h.viable ts cause ho hc)

end

theorem andThen (hφ : Reads n φ.walk α ext') (hψ : Reads n ψ.walk β ext)
    (hs : ∀ (b : β) ts, Stops ext ts → Stops ext' (tokens b ++ ts)) :
    Reads n (φ.andThen ψ).walk (α × β) ext where
  nonempty := hφ.nonempty.elim fun a => hψ.nonempty.elim fun b => ⟨(a, b)⟩
  sound ts ho := by
    obtain ⟨hoφ, hoψ⟩ := through_of_andThen ho
    obtain ⟨a, hda, hta, hva⟩ := hφ.sound ts hoφ
    obtain ⟨b, hdb, htb, hvb⟩ := hψ.sound _ hoψ
    refine ⟨(a, b), Nat.max_le.2 ⟨hda, hdb⟩, ?_, ?_⟩
    · rw [walk_andThen, taken_andThen hoφ, hta, htb, tokens_pair]
    · rw [walk_andThen, events_andThen hoφ, hva, hvb, events_pair]
  complete := by
    rintro ⟨a, b⟩ ts ht hd
    obtain ⟨hda, hdb⟩ := Nat.max_le.1 hd
    obtain ⟨ho, hr⟩ := hφ.complete_andThen (hs b ts ht) hda ψ.walk
    rw [tokens_pair, List.append_assoc, walk_andThen, ho, hr]
    exact hψ.complete b ts ht hdb
  deep := by
    rintro ⟨a, b⟩ ts ht hd
    rw [tokens_pair, List.append_assoc, walk_andThen]
    by_cases hda : depth a ≤ n
    · obtain ⟨ho, -⟩ := hφ.complete_andThen (hs b ts ht) hda ψ.walk
      rw [ho]
      rw [depth_pair] at hd
      exact hψ.deep b ts ht (by omega)
    · exact hφ.deep_andThen (hs b ts ht) (Nat.lt_of_not_le hda) ψ.walk
  viable ts cause ho hc := by
    rcases hφ.stuck_andThen ho hc with ⟨a, ha⟩ | ⟨a, -, hoψ, ht⟩
    · obtain ⟨b⟩ := hψ.nonempty
      exact ⟨(a, b), ha.trans (List.prefix_append _ _)⟩
    · obtain ⟨b, hb⟩ := hψ.viable _ cause hoψ hc
      refine ⟨(a, b), ?_⟩
      rw [walk_andThen, ht, tokens_pair]
      exact (List.prefix_append_right_inj _).2 hb
  unique := by
    rintro ⟨a, b⟩ ⟨a', b'⟩ ts us he ht hu hd hd'
    obtain ⟨hda, hdb⟩ := Nat.max_le.1 hd
    obtain ⟨hda', hdb'⟩ := Nat.max_le.1 hd'
    simp only [tokens_pair, List.append_assoc] at he
    obtain rfl := hφ.unique a a' _ _ he (hs b ts ht) (hs b' us hu) hda hda'
    rw [hψ.unique b b' ts us (List.append_cancel_left he) ht hu hdb hdb']

theorem transfer (h : Reads n f α ext) {g : List Token → Walk}
    (hd : ∀ (a : α) ts, Stops ext ts → g (tokens a ++ ts) = f (tokens a ++ ts))
    (ht : ∀ ts, (g ts).outcome = .through → g ts = f ts)
    (hs : ∀ ts cause, (g ts).outcome = .stuck cause → g ts = f ts ∨ (g ts).taken = []) :
    Reads n g α ext where
  nonempty := h.nonempty
  sound ts ho := ht ts ho ▸ h.sound ts (ht ts ho ▸ ho)
  complete a ts hts := hd a ts hts ▸ h.complete a ts hts
  deep a ts hts := hd a ts hts ▸ h.deep a ts hts
  viable ts cause ho hc := by
    rcases hs ts cause ho with hg | hg
    · rw [hg] at ho ⊢
      exact h.viable ts cause ho hc
    · obtain ⟨a⟩ := h.nonempty
      exact ⟨a, hg ▸ List.nil_prefix⟩
  unique := h.unique

theorem always (h : Reads n φ.walk α ext) : Reads n (choose fun _ => φ).walk α ext := by
  refine h.transfer (fun a ts hs => ?_) (fun ts ho => ?_) (fun ts cause ho => ?_)
  · obtain ⟨t, us, he⟩ := hs.append_cons (tokens a)
    rw [he, walk_choose]
  · cases ts with
    | nil => cases ho
    | cons t ts => exact walk_choose _ t ts
  · cases ts with
    | nil => cases ho
    | cons t ts => exact .inl (walk_choose _ t ts)

section

variable {p : Kind → Bool} {g : Kind → Phrase}

theorem choose_begins (g : Kind → Phrase) {ts : List Token} (h : Begins p ts) :
    (choose fun k => if p k then φ else g k).walk ts = φ.walk ts := by
  obtain ⟨t, us, rfl, ht⟩ := h
  rw [walk_choose, if_pos ht]

theorem choose_stops (φ : Phrase) {ts : List Token} (h : Stops p ts) :
    (choose fun k => if p k then φ else g k).walk ts = (choose g).walk ts := by
  obtain ⟨t, us, rfl, ht⟩ := h
  rw [walk_choose, walk_choose, if_neg (Bool.eq_false_iff.1 ht)]

theorem choose_congr {g' : Kind → Phrase} (h : Reads n (choose g).walk α ext)
    (hg : ∀ k, g k = g' k) : Reads n (choose g').walk α ext := funext hg ▸ h

/-- A choice that fails unless the next kind begins the phrase. -/
theorem only (h : Reads n φ.walk α ext) (hp : Opens p α) (cause : SyntaxCause) :
    Reads n (choose fun k => if p k then φ else fail cause).walk α ext := by
  refine h.transfer (fun a ts hs => choose_begins _ (hp a ts)) (fun ts ho => ?_)
    (fun ts cause' ho => ?_)
  · cases ts with
    | nil => cases ho
    | cons t ts =>
      rcases begins_or_stops p t ts with hb | hs
      · exact choose_begins _ hb
      · rw [choose_stops _ hs] at ho
        cases ho
  · cases ts with
    | nil => cases ho
    | cons t ts =>
      rcases begins_or_stops p t ts with hb | hs
      · exact .inl (choose_begins _ hb)
      · rw [choose_stops _ hs]
        exact .inr rfl

/-- The next kind decides between two phrases. -/
theorem either (hφ : Reads n φ.walk α ext) (hg : Reads n (choose g).walk β ext)
    (hp : Opens p α) (hs : ∀ (b : β) ts, Stops ext ts → Stops p (tokens b ++ ts)) :
    Reads n (choose fun k => if p k then φ else g k).walk (α ⊕ β) ext where
  nonempty := hφ.nonempty.elim fun a => ⟨.inl a⟩
  sound ts ho := by
    cases ts with
    | nil => cases ho
    | cons t ts =>
      rcases begins_or_stops p t ts with ht | ht
      · rw [choose_begins _ ht] at ho ⊢
        obtain ⟨a, ha⟩ := hφ.sound _ ho
        exact ⟨.inl a, ha⟩
      · rw [choose_stops _ ht] at ho ⊢
        obtain ⟨b, hb⟩ := hg.sound _ ho
        exact ⟨.inr b, hb⟩
  complete c ts ht hd := by
    cases c with
    | inl a =>
      have h := hφ.complete a ts ht hd
      rwa [← choose_begins g (hp a ts)] at h
    | inr b =>
      have h := hg.complete b ts ht hd
      rwa [← choose_stops φ (hs b ts ht)] at h
  deep c ts ht hd := by
    cases c with
    | inl a =>
      have h := hφ.deep a ts ht hd
      rwa [← choose_begins g (hp a ts)] at h
    | inr b =>
      have h := hg.deep b ts ht hd
      rwa [← choose_stops φ (hs b ts ht)] at h
  viable ts cause ho hc := by
    cases ts with
    | nil => cases ho
    | cons t ts =>
      rcases begins_or_stops p t ts with ht | ht
      · rw [choose_begins _ ht] at ho ⊢
        obtain ⟨a, ha⟩ := hφ.viable _ cause ho hc
        exact ⟨.inl a, ha⟩
      · rw [choose_stops _ ht] at ho ⊢
        obtain ⟨b, hb⟩ := hg.viable _ cause ho hc
        exact ⟨.inr b, hb⟩
  unique c c' ts us he ht hu hd hd' := by
    match c, c' with
    | .inl a, .inl a' => rw [hφ.unique a a' ts us he ht hu hd hd']
    | .inl a, .inr b =>
      exact absurd (hs b us hu) (Begins.not_stops (he ▸ hp a ts))
    | .inr b, .inl a =>
      exact absurd (hs b ts ht) (Begins.not_stops (he ▸ hp a us))
    | .inr b, .inr b' => rw [hg.unique b b' ts us he ht hu hd hd']

end

section

variable {body : List Token → Walk} {first p : Kind → Bool} (ho : Opens first α)
  (hp : ∀ k, first k = true → p k = true) (hf : ∀ k, first k = true → ext k = false)
  (hq : ∀ k, ext' k = false → p k = false) (hx : ∀ k, ext' k = false → ext k = false)

section

include ho hp

theorem again_item (hs : Shrinks body) (a : α) (as : List α) (ts : List Token) :
    again p body (tokens (a :: as) ++ ts) =
      (body (tokens a ++ (tokens as ++ ts))).andThen (again p body) := by
  obtain ⟨t, us, ht, hk⟩ := ho a (tokens as ++ ts)
  rw [tokens_cons, List.append_assoc, ht, again_go (hp _ hk) hs]

end

include ho hp hf hq hx

theorem items_unique (hr : Reads n body α ext) (as bs : List α) {ts us : List Token}
    (he : tokens as ++ ts = tokens bs ++ us) (ht : Stops ext' ts) (hu : Stops ext' us)
    (ha : depth as ≤ n) (hb : depth bs ≤ n) : as = bs := by
  have hne (c : α) (cs : List α) {ts us : List Token} (ht : Stops ext' ts) :
      ts ≠ tokens (c :: cs) ++ us := by
    intro he
    obtain ⟨t, vs, rfl, hk⟩ := ht
    rw [tokens_cons, List.append_assoc] at he
    have hb : Begins p (t :: vs) := he ▸ ho.mono hp c (tokens cs ++ us)
    exact hb.not_stops ⟨t, vs, rfl, hq _ hk⟩
  induction as generalizing bs with
  | nil =>
    cases bs with
    | nil => rfl
    | cons b bs => exact absurd he (hne b bs ht)
  | cons a as ih =>
    cases bs with
    | nil => exact absurd he.symm (hne a as hu)
    | cons b bs =>
      obtain ⟨ha, has⟩ := Nat.max_le.1 ha
      obtain ⟨hb, hbs⟩ := Nat.max_le.1 hb
      simp only [tokens_cons, List.append_assoc] at he
      obtain rfl := hr.unique a b _ _ he (ho.stops_items hf hx as ht)
        (ho.stops_items hf hx bs hu) ha hb
      rw [ih bs (List.append_cancel_left he) has hbs]

theorem many (hr : Reads n body α ext) (hs : Shrinks body) :
    Reads n (again p body) (List α) ext' where
  nonempty := ⟨[]⟩
  sound ts h := by
    induction ts using again_induction (p := p) hs with
    | nil =>
      rw [again] at h
      cases h
    | stop t ts hp =>
      rw [again_stop hp]
      exact ⟨[], Nat.zero_le n, rfl, rfl⟩
    | go t ts hp ih =>
      rw [again_go hp hs] at h ⊢
      obtain ⟨hb, hn⟩ := through_of_andThen h
      obtain ⟨a, hda, hta, hva⟩ := hr.sound _ hb
      obtain ⟨as, hds, hts, hvs⟩ := ih hb hn
      refine ⟨a :: as, Nat.max_le.2 ⟨hda, hds⟩, ?_, ?_⟩
      · rw [taken_andThen hb, hta, hts, tokens_cons]
      · rw [events_andThen hb, hva, hvs, events_cons]
  complete as ts ht hd := by
    induction as with
    | nil =>
      obtain ⟨t, us, rfl, hk⟩ := ht
      rw [tokens_nil, List.nil_append, again_stop (hq _ hk)]
      exact ⟨rfl, rfl⟩
    | cons a as ih =>
      obtain ⟨hda, hds⟩ := Nat.max_le.1 hd
      obtain ⟨hb, hn⟩ := hr.complete_andThen (ho.stops_items hf hx as ht) hda (again p body)
      rw [again_item ho hp hs, hb, hn]
      exact ih hds
  deep as ts ht hd := by
    induction as with
    | nil => exact absurd hd (Nat.not_lt_zero n)
    | cons a as ih =>
      have hstops := ho.stops_items hf hx as ht
      rw [again_item ho hp hs]
      by_cases hda : depth a ≤ n
      · obtain ⟨hb, -⟩ := hr.complete_andThen hstops hda (again p body)
        rw [hb]
        rw [depth_cons] at hd
        exact ih (by omega)
      · exact hr.deep_andThen hstops (Nat.lt_of_not_le hda) (again p body)
  viable ts cause h hc := by
    induction ts using again_induction (p := p) hs with
    | nil =>
      rw [again] at h
      cases h
    | stop t ts hp =>
      rw [again_stop hp] at h
      cases h
    | go t ts hp ih =>
      rw [again_go hp hs] at h ⊢
      rcases hr.stuck_andThen h hc with ⟨a, ha⟩ | ⟨a, hb, hn, ht⟩
      · exact ⟨[a], ha.trans (List.prefix_append _ _)⟩
      · obtain ⟨as, has⟩ := ih hb hn
        refine ⟨a :: as, ?_⟩
        rw [ht, tokens_cons]
        exact (List.prefix_append_right_inj _).2 has
  unique as bs ts us he ht hu hd hd' := items_unique ho hp hf hq hx hr as bs he ht hu hd hd'

end

theorem chain {p : Kind → Bool} [Nonempty (Leaf p)] (hp : p .eof = false)
    (h : Reads n φ.walk α ext) (hd : ∀ k, p k = true → ext k = false) :
    Reads n (chain p hp φ).walk (List (Leaf p × α)) (fun k => p k || ext k) := by
  have hb : Reads n ((accept p hp .noOperand).andThen φ).walk (Leaf p × α) ext :=
    andThen (leaf hp _) h fun b ts ht => ht.append (tokens b)
  rw [walk_chain]
  exact many (opens_leaf p).prod (fun _ hk => hk) hd (fun k hk => (Bool.or_eq_false_iff.1 hk).1)
    (fun k hk => (Bool.or_eq_false_iff.1 hk).2) hb (takes_shrinks rfl)

/-- As many items as there are in front of a closer that none of them begins with. -/
theorem upTo {first : Kind → Bool} {closer : Kind} (h : Reads n φ.walk α ext)
    (ht : φ.takes = true) (ho : Opens first α) (hf : ∀ k, first k = true → ext k = false)
    (hc : first closer = false) (he : ext closer = false) :
    Reads n (upTo closer φ).walk (List α) (· != closer) := by
  rw [walk_upTo closer ht]
  refine many ho (fun k hk => ?_) hf (fun _ hk => hk) (fun k hk => ?_) h (takes_shrinks ht)
  · rw [bne_iff_ne]
    rintro rfl
    exact Bool.false_ne_true (hc.symm.trans hk)
  · obtain rfl := bne_eq_false_iff_eq.1 hk
    exact he

end Reads

end TeenyFront
