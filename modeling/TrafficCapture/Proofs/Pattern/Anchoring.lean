import TrafficCapture.Pattern
import TrafficCapture.Proofs.Pattern.Items
import TrafficCapture.Proofs.Pattern.Line
import TrafficCapture.Proofs.Pattern.Matching

/-! # Anchored patterns

A pattern is put into a group between the beginning and the end of the text before it is read. If it
is one on its own, nothing in it closes this group: it is read as it would be alone, and what the
two readings come to differs by the group and the two conditions around it. -/

namespace TrafficCapture.Pattern

open List Reader

/-! ## Reading inside one more group -/

namespace Partial

/-- The same inside one more group, around all that are open. -/
def within (p : Partial) (g : OpenGroup) : Partial := { p with groups := p.groups ++ [g] }

variable {p q : Partial} (g : OpenGroup)

theorem leave_within (h : p.groups ≠ []) :
    (p.within g).leave = p.leave.map (·.within g) := by
  obtain ⟨verbose, names, level, groups⟩ := p
  cases groups with
  | nil => exact absurd rfl h
  | cons group groups => rfl

theorem repeated_within :
    (p.within g).repeated = p.repeated.map fun out => (out.1, out.2.within g) := by
  obtain ⟨verbose, names, ⟨branches, items⟩, groups⟩ := p
  cases items with
  | nil => rfl
  | cons item items =>
      cases h : item.repeatable with
      | false => simp [repeated, within, h, Except.map]
      | true => simp [repeated, within, h, Except.map]

end Partial

theorem map_ofExcept {α β : Type} (f : α → β) (x : Except SyntaxError α) :
    f <$> Reader.ofExcept x = Reader.ofExcept (x.map f) := by
  cases x <;> rfl

/-- Reading goes on inside one more group as it does without, unless a group is left that is not
open without it. -/
theorem readOnto_within (p : Partial) (g : OpenGroup) {c : Char} (hc : c = ')' → p.groups ≠ []) :
    readOnto (p.within g) c = (·.within g) <$> readOnto p c := by
  rw [readOnto, readOnto]
  split
  · rw [map_bind]
    refine bind_congr fun opening => ?_
    cases opening <;> rfl
  split
  · rename_i hclose
    rw [Partial.leave_within g (hc (beq_iff_eq.mp hclose)), map_ofExcept]
  split
  · rfl
  split
  · rw [map_bind]
    exact bind_congr fun _ => rfl
  split
  · rw [Partial.repeated_within, ← map_ofExcept, bind_map_left, map_bind]
    refine bind_congr fun out => ?_
    obtain ⟨item, q⟩ := out
    rw [map_bind]
    exact bind_congr fun _ => rfl
  split
  · rw [map_bind]
    exact bind_congr fun _ => rfl
  split
  · rfl
  split
  · rfl
  split
  · rfl
  · rfl

/-- Reads the rest of a pattern of which a part has been read. -/
def readOn (p : Partial) : Reader Ast :=
  loop Partial.verbose (fun p c => do return .again (← readOnto p c)) Partial.finish p

theorem run_readOn_cons (p : Partial) (c : Char) (more : List Char) :
    (readOn p).run (c :: more) =
      match skipped? p.verbose c with
      | some inComment => (readOn p).run (dropBlanks inComment more)
      | none => ((readOnto p c).run more).bind fun out => (readOn out.1).run out.2 := by
  rw [readOn, run_loop_cons]
  cases skipped? p.verbose c with
  | some inComment => rfl
  | none =>
      simp only [run_bind]
      cases (readOnto p c).run more <;> rfl

theorem Partial.finish_eq_ok {p : Partial} {a : Ast} (h : p.finish = .ok a) :
    p.groups = [] ∧ a = p.level.close := by
  rw [finish] at h
  split at h
  · rename_i hgroups
    cases h
    exact ⟨isEmpty_iff.mp hgroups, rfl⟩
  · cases h

/-- With the end of a group behind the text, reading inside the group comes to where the pattern
ends that is read without. -/
def ReachesEnd (g : OpenGroup) (p : Partial) (cs : List Char) (a : Ast) : Prop :=
  ∀ ⦃cs'⦄, Behind cs cs' → ∃ (q : Partial) (ending : List Char), q.finish = .ok a ∧
    Behind [] ending ∧ (readOn (p.within g)).run cs' = (readOn (q.within g)).run ending

/-- What is a pattern on its own is read to its end inside one more group. -/
theorem reachesEnd {p : Partial} {a : Ast} {cs rest : List Char} (g : OpenGroup)
    (h : (readOn p).run cs = .ok (a, rest)) : ReachesEnd g p cs a := by
  refine loop_induction (P := fun p cs a _ => ReachesEnd g p cs a) ?_ ?_ ?_ ?_ ?_ h
  · intro p a hfinish cs' hcs
    exact ⟨p, cs', hfinish, hcs, rfl⟩
  · intro p c more inComment a rest hskip ih cs' hcs
    obtain rfl := hcs.eq_cons
    obtain ⟨q, ending, hfinish, hending, hrun⟩ := ih (.dropBlanks inComment more)
    refine ⟨q, ending, hfinish, hending, ?_⟩
    rw [run_readOn_cons, show (p.within g).verbose = p.verbose from rfl, hskip]
    exact hrun
  · intro p c more p' more' a rest hskip hstep ih cs' hcs
    obtain rfl := hcs.eq_cons
    obtain ⟨_, _, hp', ⟨⟩⟩ := run_bind_eq_ok.mp hstep
    obtain ⟨more'', hmore, hp''⟩ := persists_readOnto p c (.kept more) _ _ hp'
    obtain ⟨q, ending, hfinish, hending, hrun⟩ := ih hmore
    refine ⟨q, ending, hfinish, hending, ?_⟩
    have hc : c = ')' → p.groups ≠ [] := by
      rintro rfl hgroups
      have hleave : readOnto p ')' = Reader.ofExcept p.leave := rfl
      rw [hleave, Partial.leave, hgroups] at hp'
      cases hp'
    rw [run_readOn_cons, show (p.within g).verbose = p.verbose from rfl, hskip,
      readOnto_within p g hc, run_map, hp'']
    exact hrun
  · intro p c more a rest _ hstep
    obtain ⟨_, _, _, ⟨⟩⟩ := run_bind_eq_ok.mp hstep
  · intro p c more a rest _ hstep
    obtain ⟨_, _, _, ⟨⟩⟩ := run_bind_eq_ok.mp hstep

/-! ## The group around a pattern -/

/-- The group that a pattern is put into, behind the beginning of the text. -/
def enclosing : OpenGroup := ⟨.flagged [], ⟨[], [.assertion .lineStart]⟩, false⟩

/-- A pattern in this group, and the end of the text behind it. -/
def Ast.enclosed (a : Ast) : Ast :=
  .concat [.assertion .lineStart, .group (.flagged []) a, .assertion .lineEnd]

theorem run_readFlags_colon (cs : List Char) : readFlags.run (':' :: cs) = .ok (([], true), cs) := by
  rw [readFlags, run_bind, run_loop_cons]
  rfl

theorem run_readOpening_unnamed (taken : List (List Char)) (cs : List Char) :
    (readOpening false taken).run ('?' :: ':' :: cs) = .ok (.unnamed (.flagged []), cs) := by
  have hnamed : (dropIf ['?', 'P', '<'] <||> dropIf ['?', '<']).run ('?' :: ':' :: cs) =
      .ok (false, '?' :: ':' :: cs) :=
    run_bind_eq_ok.mpr ⟨false, _, rfl, rfl⟩
  have hflagged : (dropIf ['?']).run ('?' :: ':' :: cs) = .ok (true, ':' :: cs) := rfl
  simp [readOpening, run_bind, run_blanks, hnamed, hflagged, run_discard, run_readFlags_colon,
    Except.bind, Except.map]

/-- Behind what is put in front of a pattern, the pattern is read from its beginning inside the
group. -/
theorem run_readPattern_anchored (text : List Char) : readPattern.run (anchored text) =
    (readOn (Partial.new.within enclosing)).run (text ++ closing) := by
  have htext : anchored text = '^' :: '(' :: '?' :: ':' :: (text ++ closing) := by
    simp [anchored, closing]
  have hgroup : (readOnto (Partial.new.push (.assertion .lineStart)) '(').run
      ('?' :: ':' :: (text ++ closing)) = .ok (Partial.new.within enclosing, text ++ closing) :=
    run_bind_eq_ok.mpr ⟨_, _, run_readOpening_unnamed [] _, rfl⟩
  rw [htext]
  change (readOn Partial.new).run _ = _
  rw [run_readOn_cons]
  change (readOn (Partial.new.push (.assertion .lineStart))).run _ = _
  rw [run_readOn_cons]
  change ((readOnto (Partial.new.push (.assertion .lineStart)) '(').run _).bind _ = _
  rw [hgroup]
  rfl

theorem run_readOn_closing {q : Partial} (h : q.groups = []) :
    (readOn (q.within enclosing)).run closing = .ok (q.level.close.enclosed, []) := by
  obtain ⟨verbose, names, level, groups⟩ := q
  obtain rfl : groups = [] := h
  rw [closing, run_readOn_cons, skipped?_close]
  change (readOn ⟨false, names, ⟨[], [.group (.flagged []) level.close, .assertion .lineStart]⟩, []⟩).run ['$'] = _
  rw [run_readOn_cons]
  change (readOn ⟨false, names, ⟨[], [.assertion .lineEnd, .group (.flagged []) level.close, .assertion .lineStart]⟩, []⟩).run [] = _
  rw [readOn, run_loop_nil]
  rfl

theorem run_readOn_swallowed {q : Partial} (h : q.groups = []) :
    (readOn (q.within enclosing)).run [] = .error .groupUnclosed := by
  rw [readOn, run_loop_nil, Partial.finish, Partial.within, h]
  rfl

theorem eq_enclosed_of_run {text rest rest' : List Char} {a a' : Ast}
    (h : readPattern.run text = .ok (a, rest))
    (h' : readPattern.run (anchored text) = .ok (a', rest')) : a' = a.enclosed := by
  obtain ⟨q, ending, hfinish, hending, hrun⟩ := reachesEnd enclosing h (.kept text)
  obtain ⟨hgroups, rfl⟩ := Partial.finish_eq_ok hfinish
  rw [run_readPattern_anchored, hrun] at h'
  cases hending with
  | kept =>
      rw [nil_append, run_readOn_closing hgroups] at h'
      cases h'
      rfl
  | swallowed =>
      rw [run_readOn_swallowed hgroups] at h'
      cases h'

theorem run_of_parse {text : List Char} {a : Ast} (h : Ast.parse text = .ok a) :
    ∃ rest, readPattern.run text = .ok (a, rest) := by
  rw [Ast.parse] at h
  cases hread : readPattern text with
  | error e =>
      rw [hread] at h
      cases h
  | ok out =>
      obtain ⟨a', rest, hrest⟩ := out
      rw [hread] at h
      simp only [bind, Except.bind] at h
      split at h
      · cases h
        exact ⟨rest, by rw [run, hread]; rfl⟩
      · cases h

/-- What is a pattern on its own and anchored too is anchored as a whole. -/
theorem parse_anchored {text : List Char} {a a' : Ast} (h : Ast.parse text = .ok a)
    (h' : Ast.parse (anchored text) = .ok a') : a' = a.enclosed := by
  obtain ⟨rest, hrun⟩ := run_of_parse h
  obtain ⟨rest', hrun'⟩ := run_of_parse h'
  exact eq_enclosed_of_run hrun hrun'

/-! ## What an anchored pattern stands for -/

/-- Flags that are set in the group end with it, so both conditions are on the whole text. -/
theorem regex_enclosed {a : Ast} {r : Regex} (h : a.regex = .ok r) :
    a.enclosed.regex = .ok (Regex.seqOf [.check .textStart, r, .check .textEnd]) := by
  have hflags : Options.initial.apply [] = Options.initial := rfl
  rw [Ast.regex] at h
  cases ha : a.regexUnder Options.initial with
  | error e =>
      rw [ha] at h
      cases h
  | ok out =>
      rw [ha] at h
      cases h
      simp only [Ast.regex, Ast.enclosed, Ast.regexUnder, Ast.regexesOnto, bind, Except.bind, hflags,
        ha]
      rfl

namespace Regex

variable {pre w post : List Char}

theorem matches_empty_seq (r : Regex) :
    (seq .empty r).Matches pre w post ↔ r.Matches pre w post := by
  constructor
  · rintro ⟨_, v, rfl, rfl, hv⟩
    simpa using hv
  · intro h
    exact ⟨[], w, rfl, rfl, by simpa using h⟩

theorem matches_seq_empty (r : Regex) :
    (seq r .empty).Matches pre w post ↔ r.Matches pre w post := by
  constructor
  · rintro ⟨u, _, rfl, hu, rfl⟩
    simpa using hu
  · intro h
    exact ⟨w, [], by simp, by simpa using h, rfl⟩

theorem matches_seq_assoc (a b c : Regex) :
    (seq (seq a b) c).Matches pre w post ↔ (seq a (seq b c)).Matches pre w post := by
  constructor
  · rintro ⟨_, x, rfl, ⟨u, v, rfl, hu, hv⟩, hx⟩
    exact ⟨u, v ++ x, by simp, by simpa using hu, v, x, rfl, hv, by simpa using hx⟩
  · rintro ⟨u, _, rfl, hu, v, x, rfl, hv, hx⟩
    exact ⟨u ++ v, x, by simp, ⟨u, v, rfl, by simpa using hu, hv⟩, by simpa using hx⟩

theorem matches_seq_congr (a : Regex) {b b' : Regex}
    (h : ∀ pre w post, b.Matches pre w post ↔ b'.Matches pre w post) :
    (seq a b).Matches pre w post ↔ (seq a b').Matches pre w post := by
  simp only [Matches, h]

/-- The parts one behind another, however they are put together. -/
def inRow (parts : List Regex) : Regex := parts.foldr seq empty

theorem matches_inRow_append (xs ys : List Regex) (pre w post : List Char) :
    (inRow (xs ++ ys)).Matches pre w post ↔ (seq (inRow xs) (inRow ys)).Matches pre w post := by
  induction xs generalizing pre w post with
  | nil => exact (matches_empty_seq _).symm
  | cons x xs ih => exact (matches_seq_congr x ih).trans (matches_seq_assoc x _ _).symm

theorem matches_balance (parts : List Regex) (pre w post : List Char) :
    (balance seq empty parts).Matches pre w post ↔ (inRow parts).Matches pre w post := by
  fun_induction balance seq empty parts generalizing pre w post with
  | case1 => rfl
  | case2 r => exact (matches_seq_empty r).symm
  | case3 a b rest half ihtake ihdrop =>
      have hparts := take_append_drop half (a :: b :: rest)
      rw [← hparts, matches_inRow_append, hparts]
      simp only [Matches, ihtake, ihdrop]

theorem matches_seqOf (parts : List Regex) (pre w post : List Char) :
    (seqOf parts).Matches pre w post ↔ (inRow parts).Matches pre w post := by
  rw [seqOf, matches_balance]
  induction parts generalizing pre w post with
  | nil => rfl
  | cons r parts ih =>
      cases hr : r.isEmpty with
      | true =>
          obtain rfl : r = empty := by
            cases r <;> first | rfl | cases hr
          exact (ih pre w post).trans (matches_empty_seq _).symm
      | false =>
          rw [filter_cons, hr]
          exact matches_seq_congr r ih

/-- Between the beginning and the end of the text, a match is a match of the whole text. -/
theorem matches_between_ends (r : Regex) (text : List Char) :
    (∃ pre w post, text = pre ++ (w ++ post) ∧
      (seqOf [.check .textStart, r, .check .textEnd]).Matches pre w post) ↔
      r.Matches [] text [] := by
  simp only [matches_seqOf]
  constructor
  · rintro ⟨pre, _, post, rfl, _, _, rfl, ⟨rfl, hstart⟩, u, _, rfl, hu, _, _, rfl, ⟨rfl, hend⟩, rfl⟩
    obtain rfl : pre = [] := by simpa [Check.holds, between] using hstart
    obtain rfl : post = [] := by simpa [Check.holds, between] using hend
    simpa using hu
  · intro h
    exact ⟨[], text, [], by simp, [], text, rfl, ⟨rfl, rfl⟩, text, [], by simp, by simpa using h, [],
      [], rfl, ⟨rfl, by simp [Check.holds, between]⟩, rfl⟩

end Regex

theorem of_regexOf {text : List Char} {r : Regex} (h : regexOf text = .ok r) :
    ∃ a, Ast.parse text = .ok a ∧ a.regex = .ok r := by
  rw [regexOf] at h
  cases ha : Ast.parse text with
  | error e =>
      rw [ha] at h
      cases h
  | ok a =>
      cases hr : a.regex with
      | error e =>
          simp only [ha, Except.bind, hr] at h
          cases h
      | ok r' =>
          simp only [ha, Except.bind, hr, Except.mapError, bind] at h
          split at h
          · cases h
          · cases h
            exact ⟨a, rfl, hr⟩

theorem of_compile {source : String} {p : TrafficCapture.Pattern} (h : compile source = .ok p) :
    source ≠ "" ∧ ∃ r r', regexOf source.toList = .ok r ∧
      regexOf (anchored source.toList) = .ok r' ∧ p = ⟨source, .ofRegex r'⟩ := by
  rw [compile] at h
  cases hempty : source.isEmpty with
  | true =>
      rw [hempty] at h
      cases h
  | false =>
      cases hr : regexOf source.toList with
      | error e =>
          rw [hempty, hr] at h
          cases h
      | ok r =>
          cases hr' : regexOf (anchored source.toList) with
          | error e =>
              rw [hempty, hr, hr'] at h
              cases h
          | ok r' =>
              rw [hempty, hr, hr'] at h
              cases h
              refine ⟨?_, r, r', rfl, rfl, rfl⟩
              rintro rfl
              cases hempty

/-- A pattern that compiles is an expression on its own and accepts a text if and only if a match of
this expression takes all of it, and a text that is empty or no expression on its own does not
compile. -/
theorem accepts_iff_matches_whole (source : String) :
    (∀ p, compile source = .ok p → ∃ r, regexOf source.toList = .ok r ∧
      ∀ text, p.accepts text = true ↔ r.Matches [] text.toList []) ∧
    (source = "" ∨ (∀ r, regexOf source.toList ≠ .ok r) → ∀ p, compile source ≠ .ok p) := by
  constructor
  · intro p h
    obtain ⟨-, r, r', hr, hr', rfl⟩ := of_compile h
    obtain ⟨a, ha, hregex⟩ := of_regexOf hr
    obtain ⟨a', ha', hregex'⟩ := of_regexOf hr'
    obtain rfl := parse_anchored ha ha'
    rw [regex_enclosed hregex] at hregex'
    cases hregex'
    refine ⟨r, hr, fun text => ?_⟩
    exact (Track.foundIn_ofRegex _ _).trans (Regex.matches_between_ends r text.toList)
  · intro hsource p h
    obtain ⟨hne, r, _, hr, -⟩ := of_compile h
    rcases hsource with rfl | hinvalid
    · exact hne rfl
    · exact hinvalid r hr

/-- What `a|ab` compiles to. -/
def choice : Track :=
  .seq (.check .textStart) (.seq (.either (.chars ⟨[(97, 97)]⟩ false)
    (.seq (.chars ⟨[(97, 97)]⟩ false) (.chars ⟨[(98, 98)]⟩ false))) (.check .textEnd))

theorem compile_choice : compile "a|ab" = .ok ⟨"a|ab", choice⟩ := by decide +kernel

theorem regexOf_unopened (r : Regex) : regexOf ")(".toList ≠ .ok r := by
  have hfault : (regexOf ")(".toList).isOk = false := by decide +kernel
  intro h
  rw [h] at hfault
  cases hfault

theorem choice_accepts_whole : (∃ r, regexOf "a|ab".toList = .ok r ∧
    ∀ text, accepts ⟨"a|ab", choice⟩ text = true ↔ r.Matches [] text.toList []) ∧
    ∀ p, compile ")(" ≠ .ok p :=
  ⟨(accepts_iff_matches_whole "a|ab").1 _ compile_choice,
    (accepts_iff_matches_whole ")(").2 (.inr regexOf_unopened)⟩

end TrafficCapture.Pattern
