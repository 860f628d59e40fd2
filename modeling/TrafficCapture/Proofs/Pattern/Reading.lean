import Mathlib.Data.List.Infix
import Mathlib.Data.Nat.Notation
import TrafficCapture.Pattern.Parse

/-! # Reading with more behind

What a reader makes of a text does not change if the end of the group that the text is put into
stands behind it: the reader comes to the same value, and the end of the group is still there. The
one exception is a comment that is still open where the text ends, which takes in all that
follows. -/

namespace TrafficCapture.Pattern

open List

/-- What closes the group that a text is put into. -/
def closing : List Char := [')', '$']

/-- What is left of a text, and what is left of it with the end of the group behind it. -/
inductive Behind : List Char → List Char → Prop
  | kept (cs : List Char) : Behind cs (cs ++ closing)
  | swallowed : Behind [] []

theorem Behind.eq_cons {c : Char} {more cs' : List Char} (h : Behind (c :: more) cs') :
    cs' = c :: (more ++ closing) := by
  cases h
  rfl

theorem Behind.head? {cs cs' : List Char} {c : Char} (h : Behind cs cs') (hc : cs.head? = some c) :
    cs'.head? = some c := by
  cases h with
  | kept => simp [hc]
  | swallowed => cases hc

/-- A character that does not close a group is next if it is next without the end of the group. -/
theorem Behind.head?_eq_some_iff {cs cs' : List Char} {c : Char} (h : Behind cs cs')
    (hc : c ≠ ')') : cs'.head? = some c ↔ cs.head? = some c := by
  constructor
  · intro hhead
    cases h with
    | kept =>
        cases cs with
        | nil =>
            cases hhead
            exact absurd rfl hc
        | cons d cs => exact hhead
    | swallowed => exact hhead
  · exact h.head?

theorem Behind.dropBlanks (inComment : Bool) (cs : List Char) :
    Behind (dropBlanks inComment cs) (dropBlanks inComment (cs ++ closing)) := by
  induction cs generalizing inComment with
  | nil =>
      cases inComment with
      | false => exact .kept []
      | true => exact .swallowed
  | cons c cs ih =>
      rw [cons_append, Pattern.dropBlanks, Pattern.dropBlanks]
      split
      · exact ih _
      split
      · exact ih _
      split
      · exact ih _
      · exact .kept (c :: cs)

theorem dropWhile_append_closing (cs : List Char) :
    (cs ++ closing).dropWhile Text.isBlank = cs.dropWhile Text.isBlank ++ closing := by
  induction cs with
  | nil => rfl
  | cons c cs ih =>
      rw [cons_append, dropWhile_cons, dropWhile_cons, ih]
      split <;> rfl

/-- A text without the character that closes a group does not reach into the end of the group. -/
theorem isPrefixOf_append_closing {text : List Char} (ht : ')' ∉ text) (cs : List Char) :
    text.isPrefixOf (cs ++ closing) = text.isPrefixOf cs := by
  induction text generalizing cs with
  | nil => rfl
  | cons d text ih =>
      rw [mem_cons, not_or] at ht
      cases cs with
      | nil => simp [closing, isPrefixOf_cons_cons, Ne.symm ht.1]
      | cons c cs => rw [cons_append, isPrefixOf_cons_cons, isPrefixOf_cons_cons, ih ht.2]

theorem Behind.isPrefixOf {cs cs' text : List Char} (h : Behind cs cs') (ht : ')' ∉ text) :
    text.isPrefixOf cs' = text.isPrefixOf cs := by
  cases h with
  | kept => exact isPrefixOf_append_closing ht cs
  | swallowed => rfl

namespace Reader

variable {α β σ : Type}

/-- What a reader reads, and what it leaves. -/
def run (r : Reader α) (cs : List Char) : Except SyntaxError (α × List Char) :=
  (r cs).map fun out => (out.1, out.2.1)

instance : LawfulMonad Reader :=
  LawfulMonad.mk' Reader
    (fun r => by
      funext cs
      simp only [Functor.map]
      cases r cs <;> rfl)
    (fun a f => by
      funext cs
      simp only [bind, pure]
      cases f a cs <;> rfl)
    (fun r f g => by
      funext cs
      simp only [bind]
      cases r cs with
      | error e => rfl
      | ok out =>
          simp only
          cases f out.1 out.2.1 with
          | error e => rfl
          | ok out' =>
              simp only
              cases g out'.1 out'.2.1 <;> rfl)

/-! ## What readers do -/

section

variable {r : Reader α} {f : α → Reader β} {cs rest : List Char} {a : α} {b : β} {e : SyntaxError}

@[simp] theorem run_pure (a : α) (cs : List Char) : (pure a : Reader α).run cs = .ok (a, cs) := rfl

theorem run_bind (r : Reader α) (f : α → Reader β) (cs : List Char) :
    (r >>= f).run cs = (r.run cs).bind fun out => (f out.1).run out.2 := by
  simp only [run, bind]
  cases r cs with
  | error e => rfl
  | ok out =>
      obtain ⟨a, rest, hrest⟩ := out
      simp only [Except.map, Except.bind]
      cases f a rest with
      | error e => rfl
      | ok out' => rfl

theorem run_bind_eq_ok : (r >>= f).run cs = .ok (b, rest) ↔
    ∃ a more, r.run cs = .ok (a, more) ∧ (f a).run more = .ok (b, rest) := by
  rw [run_bind]
  cases hr : r.run cs with
  | error e => simp [Except.bind]
  | ok out =>
      obtain ⟨a, more⟩ := out
      constructor
      · intro h
        exact ⟨a, more, rfl, h⟩
      · rintro ⟨_, _, ⟨⟩, h⟩
        exact h

theorem run_map (g : α → β) (r : Reader α) (cs : List Char) :
    (g <$> r).run cs = (r.run cs).map fun out => (g out.1, out.2) := by
  rw [map_eq_pure_bind, run_bind]
  cases r.run cs <;> rfl

theorem run_ofExcept (x : Except SyntaxError α) (cs : List Char) :
    (ofExcept x).run cs = x.map fun a => (a, cs) := by
  cases x <;> rfl

theorem length_le_of_run (h : r.run cs = .ok (a, rest)) : rest.length ≤ cs.length := by
  rw [run] at h
  cases hr : r cs with
  | error e =>
      rw [hr] at h
      cases h
  | ok out =>
      rw [hr] at h
      cases h
      exact out.2.2

@[simp] theorem run_rest (cs : List Char) : Reader.rest.run cs = .ok (cs, cs) := rfl

@[simp] theorem run_peek_cons (e : SyntaxError) (c : Char) (cs : List Char) :
    (peek e).run (c :: cs) = .ok (c, c :: cs) := rfl

@[simp] theorem run_drop (n : ℕ) (cs : List Char) : (drop n).run cs = .ok ((), cs.drop n) := rfl

@[simp] theorem run_dropWhile (p : Char → Bool) (cs : List Char) :
    (dropWhile p).run cs = .ok ((), cs.dropWhile p) := rfl

theorem run_blanks (verbose : Bool) (cs : List Char) :
    (blanks verbose).run cs = .ok ((), if verbose then dropBlanks false cs else cs) := by
  cases verbose <;> rfl

theorem run_dropIf (text cs : List Char) : (dropIf text).run cs =
    .ok (text.isPrefixOf cs, if text.isPrefixOf cs then cs.drop text.length else cs) := by
  rw [dropIf, run_bind, run_rest]
  simp only [Except.bind]
  split
  · rename_i h
    rw [run_bind, run_drop, h]
    rfl
  · rename_i h
    rw [run_pure, eq_false_of_ne_true h]

theorem run_discard (r : Reader α) (cs : List Char) :
    (discard r).run cs = (r.run cs).map fun out => ((), out.2) := by
  change (r >>= fun _ => pure ()).run cs = _
  rw [run_bind]
  cases r.run cs <;> rfl

end

/-! ## Loops -/

/-- Whether a character is dropped where white space and comments do not count, and then whether a
comment is open behind it. -/
def skipped? (verbose : Bool) (c : Char) : Option Bool :=
  if verbose && Text.isBlank c then some false
  else if verbose && c == '#' then some true
  else none

section

variable {verbose : σ → Bool} {step : σ → Char → Reader (Round σ β)}
  {atEnd : σ → Except SyntaxError β}

/-- The bound of a loop makes no difference. -/
theorem loopWithin_eq (bound bound' : ℕ) (s : σ) (cs : List Char) (h : cs.length ≤ bound)
    (h' : cs.length ≤ bound') :
    (loopWithin verbose step atEnd bound s cs h).map (fun out => (out.1, out.2.1)) =
      (loopWithin verbose step atEnd bound' s cs h').map (fun out => (out.1, out.2.1)) := by
  -- every round takes a character at least, so less text is left behind it
  induction hn : cs.length using Nat.strongRecOn generalizing s cs with
  | ind n ih =>
      cases cs with
      | nil =>
          rw [loopWithin, loopWithin]
          cases atEnd s <;> rfl
      | cons c more =>
          have hblanks (inComment : Bool) : (dropBlanks inComment more).length < n :=
            hn ▸ Nat.lt_succ_of_le (dropBlanks_length inComment more)
          rw [loopWithin, loopWithin]
          split
          · exact ih _ (hblanks false) _ _ _ _ rfl
          split
          · exact ih _ (hblanks true) _ _ _ _ rfl
          cases hstep : step s c more with
          | error e => rfl
          | ok out =>
              obtain ⟨round, rest, hrest⟩ := out
              cases round with
              | again s' => exact ih _ (hn ▸ Nat.lt_succ_of_le hrest) _ _ _ _ rfl
              | done b => rfl
              | leave b => rfl

theorem run_loop_nil (s : σ) :
    (loop verbose step atEnd s).run [] = (atEnd s).map fun b => (b, []) := by
  rw [run, loop, loopWithin]
  cases atEnd s <;> rfl

/-- One round of a loop. -/
theorem run_loop_cons (s : σ) (c : Char) (more : List Char) :
    (loop verbose step atEnd s).run (c :: more) =
      match skipped? (verbose s) c with
      | some inComment => (loop verbose step atEnd s).run (dropBlanks inComment more)
      | none => ((step s c).run more).bind fun
        | (.again s', rest) => (loop verbose step atEnd s').run rest
        | (.done b, rest) => .ok (b, rest)
        | (.leave b, _) => .ok (b, c :: more) := by
  rw [run, loop, loopWithin, skipped?]
  split
  · exact loopWithin_eq ..
  split
  · exact loopWithin_eq ..
  simp only [run]
  cases step s c more with
  | error e => rfl
  | ok out =>
      obtain ⟨round, rest, hrest⟩ := out
      cases round with
      | again s' => exact loopWithin_eq ..
      | done b => rfl
      | leave b => rfl

/-- What holds of every loop that comes to a value, by induction on its rounds. -/
theorem loop_induction {P : σ → List Char → β → List Char → Prop}
    (hnil : ∀ s b, atEnd s = .ok b → P s [] b [])
    (hskip : ∀ s c more inComment b rest, skipped? (verbose s) c = some inComment →
      P s (dropBlanks inComment more) b rest → P s (c :: more) b rest)
    (hagain : ∀ s c more s' more' b rest, skipped? (verbose s) c = none →
      (step s c).run more = .ok (.again s', more') → P s' more' b rest → P s (c :: more) b rest)
    (hdone : ∀ s c more b rest, skipped? (verbose s) c = none →
      (step s c).run more = .ok (.done b, rest) → P s (c :: more) b rest)
    (hleave : ∀ s c more b rest, skipped? (verbose s) c = none →
      (step s c).run more = .ok (.leave b, rest) → P s (c :: more) b (c :: more))
    {s : σ} {cs : List Char} {b : β} {rest : List Char}
    (h : (loop verbose step atEnd s).run cs = .ok (b, rest)) : P s cs b rest := by
  induction hn : cs.length using Nat.strongRecOn generalizing s cs with
  | ind n ih =>
      cases cs with
      | nil =>
          rw [run_loop_nil] at h
          cases hs : atEnd s with
          | error e =>
              rw [hs] at h
              cases h
          | ok b' =>
              rw [hs] at h
              cases h
              exact hnil s b hs
      | cons c more =>
          rw [run_loop_cons] at h
          cases hc : skipped? (verbose s) c with
          | some inComment =>
              rw [hc] at h
              have hlt := Nat.lt_succ_of_le (dropBlanks_length inComment more)
              exact hskip s c more inComment b rest hc (ih _ (hn ▸ hlt) h rfl)
          | none =>
              rw [hc] at h
              cases hstep : (step s c).run more with
              | error e =>
                  rw [hstep] at h
                  cases h
              | ok out =>
                  obtain ⟨round, more'⟩ := out
                  rw [hstep] at h
                  cases round with
                  | again s' =>
                      have hlt := Nat.lt_succ_of_le (length_le_of_run hstep)
                      exact hagain s c more s' more' b rest hc hstep (ih _ (hn ▸ hlt) h rfl)
                  | done b' =>
                      cases h
                      exact hdone s c more b rest hc hstep
                  | leave b' =>
                      cases h
                      exact hleave s c more b more' hc hstep

end

@[simp] theorem skipped?_close (verbose : Bool) : skipped? verbose ')' = none := by
  cases verbose <;> rfl

/-! ## The same with the end of a group behind it -/

/-- Where one reader comes to a value, the other comes to the same, and leaves the end of the group
behind what the first one leaves. -/
def Echoes (r r' : Reader α) (cs cs' : List Char) : Prop :=
  ∀ a rest, r.run cs = .ok (a, rest) → ∃ rest', Behind rest rest' ∧ r'.run cs' = .ok (a, rest')

/-- What a reader reads is the same with the end of a group behind it. -/
def Persists (r : Reader α) : Prop := ∀ ⦃cs cs'⦄, Behind cs cs' → Echoes r r cs cs'

section

variable {r r' : Reader α} {f f' : α → Reader β} {cs cs' : List Char} {e : SyntaxError}

theorem Echoes.pure (h : Behind cs cs') (a : α) : Echoes (pure a) (pure a) cs cs' := by
  rintro _ _ ⟨⟩
  exact ⟨cs', h, rfl⟩

theorem Echoes.fail : Echoes (fail e) r' cs cs' := by
  rintro _ _ ⟨⟩

theorem Echoes.ofExcept (h : Behind cs cs') (x : Except SyntaxError α) :
    Echoes (ofExcept x) (ofExcept x) cs cs' := by
  intro a rest hrun
  cases x with
  | error e => cases hrun
  | ok a =>
      cases hrun
      exact ⟨cs', h, rfl⟩

theorem Echoes.bind (h : Echoes r r' cs cs')
    (hf : ∀ a ⦃rest rest'⦄, Behind rest rest' → Echoes (f a) (f' a) rest rest') :
    Echoes (r >>= f) (r' >>= f') cs cs' := by
  intro b rest hrun
  obtain ⟨a, more, hr, hfa⟩ := run_bind_eq_ok.mp hrun
  obtain ⟨more', hmore, hr'⟩ := h a more hr
  obtain ⟨rest', hrest, hfa'⟩ := hf a hmore b rest hfa
  exact ⟨rest', hrest, run_bind_eq_ok.mpr ⟨a, more', hr', hfa'⟩⟩

theorem Echoes.ofExcept_bind {x : Except SyntaxError α}
    (hf : ∀ a, Echoes (f a) (f' a) cs cs') :
    Echoes (Reader.ofExcept x >>= f) (Reader.ofExcept x >>= f') cs cs' := by
  intro b rest hrun
  obtain ⟨a, more, hx, hfa⟩ := run_bind_eq_ok.mp hrun
  rw [run_ofExcept] at hx
  cases x with
  | error e => cases hx
  | ok a =>
      cases hx
      obtain ⟨rest', hrest, hfa'⟩ := hf a b rest hfa
      exact ⟨rest', hrest, run_bind_eq_ok.mpr ⟨a, cs', rfl, hfa'⟩⟩

theorem Persists.bind (h : Persists r) (hf : ∀ a, Persists (f a)) : Persists (r >>= f) :=
  fun _ _ hcs => (h hcs).bind fun a _ _ hrest => hf a hrest

theorem Persists.discard (h : Persists r) : Persists (discard r) :=
  h.bind fun _ _ _ hrest => .pure hrest ()

theorem persists_pure (a : α) : Persists (pure a : Reader α) := fun _ _ h => .pure h a

theorem persists_fail (e : SyntaxError) : Persists (fail e : Reader α) := fun _ _ _ => .fail

/-- What stands behind a failure is not read. -/
theorem persists_fail_bind : Persists (fail e >>= f) := by
  rintro cs cs' h b rest ⟨⟩

theorem Persists.orM {r r' : Reader Bool} (h : Persists r) (h' : Persists r') :
    Persists (r <||> r') := by
  refine h.bind fun b => ?_
  cases b with
  | true => exact persists_pure true
  | false => exact h'

theorem persists_ofExcept (x : Except SyntaxError α) : Persists (ofExcept x) :=
  fun _ _ h => .ofExcept h x

end

section

variable {β : Type} {f f' : Char → Reader β} {cs cs' : List Char} {e : SyntaxError}

/-- The character that comes next is the same with the end of the group behind it. -/
theorem Echoes.peek (h : Behind cs cs')
    (hf : ∀ c more, Echoes (f c) (f' c) (c :: more) (c :: (more ++ closing))) :
    Echoes (peek e >>= f) (peek e >>= f') cs cs' := by
  intro b rest hrun
  obtain ⟨c, more, hpeek, hfc⟩ := run_bind_eq_ok.mp hrun
  cases h with
  | swallowed => cases hpeek
  | kept =>
      cases cs with
      | nil => cases hpeek
      | cons d cs =>
          cases hpeek
          obtain ⟨rest', hrest, hfc'⟩ := hf d cs b rest hfc
          exact ⟨rest', hrest, run_bind_eq_ok.mpr ⟨d, _, rfl, hfc'⟩⟩

theorem persists_peek (e : SyntaxError) : Persists (Reader.peek e) := by
  intro cs cs' h
  have hecho : Echoes (Reader.peek e >>= pure) (Reader.peek e >>= pure) cs cs' :=
    .peek h fun c more => .pure (.kept (c :: more)) c
  intro a rest hrun
  have hback : ∀ cs, (Reader.peek e >>= pure).run cs = (Reader.peek e).run cs := by
    intro cs
    cases cs <;> rfl
  rw [← hback] at hrun ⊢
  exact hecho a rest hrun

theorem Echoes.drop_of_le {f f' : Unit → Reader β} {n : ℕ} (hn : n ≤ cs.length)
    (h : Echoes (f ()) (f' ()) (cs.drop n) (cs.drop n ++ closing)) :
    Echoes (Reader.drop n >>= f) (Reader.drop n >>= f') cs (cs ++ closing) := by
  intro b rest hrun
  obtain ⟨_, _, ⟨⟩, hf⟩ := run_bind_eq_ok.mp hrun
  obtain ⟨rest', hrest, hf'⟩ := h b rest hf
  refine ⟨rest', hrest, run_bind_eq_ok.mpr ⟨(), cs.drop n ++ closing, ?_, hf'⟩⟩
  rw [run_drop, drop_append_of_le_length hn]

theorem Echoes.drop {f f' : Unit → Reader β} {c : Char} {more : List Char}
    (h : Echoes (f ()) (f' ()) more (more ++ closing)) :
    Echoes (Reader.drop 1 >>= f) (Reader.drop 1 >>= f') (c :: more) (c :: (more ++ closing)) :=
  have hle : 1 ≤ (c :: more).length := Nat.le_add_left 1 more.length
  .drop_of_le hle h

theorem Echoes.rest {f f' : List Char → Reader β} (h : Echoes (f cs) (f' cs') cs cs') :
    Echoes (Reader.rest >>= f) (Reader.rest >>= f') cs cs' := by
  intro b rest hrun
  obtain ⟨_, _, ⟨⟩, hf⟩ := run_bind_eq_ok.mp hrun
  obtain ⟨rest', hrest, hf'⟩ := h b rest hf
  exact ⟨rest', hrest, run_bind_eq_ok.mpr ⟨cs', cs', rfl, hf'⟩⟩

theorem Echoes.peek? {f f' : Option Char → Reader β}
    (h : Echoes (f cs.head?) (f' cs'.head?) cs cs') :
    Echoes (Reader.peek? >>= f) (Reader.peek? >>= f') cs cs' := by
  intro b rest hrun
  obtain ⟨_, _, ⟨⟩, hf⟩ := run_bind_eq_ok.mp hrun
  obtain ⟨rest', hrest, hf'⟩ := h b rest hf
  exact ⟨rest', hrest, run_bind_eq_ok.mpr ⟨cs'.head?, cs', rfl, hf'⟩⟩

end

/-! ## White space, fixed texts and loops -/

theorem persists_blanks (verbose : Bool) : Persists (blanks verbose) := by
  intro cs cs' h a rest hrun
  rw [run_blanks] at hrun
  cases hrun
  rw [run_blanks]
  cases verbose with
  | false => exact ⟨cs', h, rfl⟩
  | true =>
      cases h with
      | kept => exact ⟨_, .dropBlanks false cs, rfl⟩
      | swallowed => exact ⟨[], .swallowed, rfl⟩

theorem persists_dropWhile : Persists (dropWhile Text.isBlank) := by
  intro cs cs' h a rest hrun
  cases hrun
  cases h with
  | kept =>
      refine ⟨_, .kept _, ?_⟩
      rw [run_dropWhile, dropWhile_append_closing]
  | swallowed => exact ⟨[], .swallowed, rfl⟩

theorem persists_dropIf {text : List Char} (ht : ')' ∉ text) : Persists (dropIf text) := by
  intro cs cs' h a rest hrun
  rw [run_dropIf] at hrun
  cases hrun
  rw [run_dropIf, h.isPrefixOf ht]
  split
  · rename_i hprefix
    refine ⟨_, ?_, rfl⟩
    cases h with
    | kept =>
        have hfront : text <+: cs := by simpa using hprefix
        rw [drop_append_of_le_length hfront.length_le]
        exact .kept _
    | swallowed => simpa using .swallowed
  · exact ⟨cs', h, rfl⟩

/-- A loop reads the same with the end of the group behind it if each of its rounds does, and if it
ends in front of the end of the group where it may end with the text. -/
theorem persists_loop {verbose : σ → Bool} {step : σ → Char → Reader (Round σ β)}
    {atEnd : σ → Except SyntaxError β} (hstep : ∀ s c, Persists (step s c))
    (hend : ∀ s b, atEnd s = .ok b →
      (loop verbose step atEnd s).run closing = .ok (b, closing)) (s : σ) :
    Persists (loop verbose step atEnd s) := by
  intro cs cs' hcs b rest hrun
  revert cs'
  -- the end of the group stands behind whatever text is left in any round
  refine loop_induction (P := fun s cs b rest => ∀ ⦃cs'⦄, Behind cs cs' → ∃ rest',
    Behind rest rest' ∧ (loop verbose step atEnd s).run cs' = .ok (b, rest')) ?_ ?_ ?_ ?_ ?_ hrun
  · intro s b hs cs' hcs
    cases hcs with
    | kept => exact ⟨closing, .kept [], hend s b hs⟩
    | swallowed => exact ⟨[], .swallowed, by rw [run_loop_nil, hs]; rfl⟩
  · intro s c more inComment b rest hc ih cs' hcs
    obtain rfl := hcs.eq_cons
    obtain ⟨rest', hrest, hrun⟩ := ih (.dropBlanks inComment more)
    refine ⟨rest', hrest, ?_⟩
    rw [run_loop_cons, hc]
    exact hrun
  · intro s c more s' more' b rest hc hs ih cs' hcs
    obtain rfl := hcs.eq_cons
    obtain ⟨more'', hmore, hs'⟩ := hstep s c (.kept more) _ _ hs
    obtain ⟨rest', hrest, hrun⟩ := ih hmore
    refine ⟨rest', hrest, ?_⟩
    rw [run_loop_cons, hc, hs']
    exact hrun
  · intro s c more b rest hc hs cs' hcs
    obtain rfl := hcs.eq_cons
    obtain ⟨rest', hrest, hs'⟩ := hstep s c (.kept more) _ _ hs
    refine ⟨rest', hrest, ?_⟩
    rw [run_loop_cons, hc, hs']
    rfl
  · intro s c more b rest hc hs cs' hcs
    obtain ⟨rest', -, hs'⟩ := hstep s c (.kept more) _ _ hs
    refine ⟨cs', hcs, ?_⟩
    obtain rfl := hcs.eq_cons
    rw [run_loop_cons, hc, hs']
    rfl

end Reader

end TrafficCapture.Pattern
