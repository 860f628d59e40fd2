import Mathlib.Data.List.TakeWhile
import TrafficCapture.Proofs.Pattern.Reading

/-! # Items with more behind

Each of the readers that a pattern is read with comes to the same value if the end of a group stands
behind the text. -/

namespace TrafficCapture.Pattern

open List

namespace Reader

/-! ## What a backslash introduces -/

theorem persists_readHexDigits (verbose : Bool) (count value : ℕ) :
    Persists (readHexDigits verbose count value) := by
  induction count generalizing value with
  | zero => exact persists_pure value
  | succ count ih =>
      intro cs cs' h
      refine .peek h fun c more => ?_
      split
      · exact .fail
      · exact .drop ((persists_blanks verbose).bind (fun _ => ih _) (.kept more))

theorem persists_readHexBraced (verbose : Bool) : Persists (readHexBraced verbose) := by
  refine Persists.bind (persists_loop (fun value c => ?_) (fun _ _ h => by cases h) none)
    fun value => (persists_blanks verbose).bind fun _ => ?_
  · split
    · exact persists_pure _
    split
    · exact persists_fail _
    · exact persists_pure _
  · cases value with
    | none => exact persists_fail _
    | some value => exact persists_pure value

theorem persists_readHex (verbose : Bool) (digits : ℕ) : Persists (readHex verbose digits) := by
  refine (persists_blanks verbose).bind fun _ cs cs' h => .peek h fun c more => ?_
  by_cases hbrace : (c == '\x7b') = true
  · simp only [hbrace, if_true]
    refine .drop ((persists_readHexBraced verbose).bind (fun value => ?_) (.kept more))
    split
    · exact persists_fail _
    · exact persists_pure _
  · simp only [hbrace]
    refine (persists_readHexDigits verbose digits 0).bind (fun value => ?_) (.kept (c :: more))
    split
    · exact persists_fail _
    · exact persists_pure _

theorem persists_readProperty (verbose negated : Bool) :
    Persists (readProperty verbose negated) := by
  refine (persists_blanks verbose).bind fun _ cs cs' h => .peek h fun c more => ?_
  split
  · refine .drop (Persists.bind (persists_loop (fun done c => ?_) (fun _ _ h => by cases h) [])
      (fun text => ?_) (.kept more))
    · exact persists_pure _
    · exact persists_pure _
  split
  · exact .fail
  · exact .drop ((persists_blanks verbose).bind (fun _ => persists_pure _) (.kept more))

theorem persists_readBoundary (verbose : Bool) : Persists (readBoundary verbose) := by
  intro cs cs' h
  refine .peek? ?_
  by_cases hbrace : cs.head? = some '\x7b'
  · obtain ⟨more, rfl⟩ := head?_eq_some_iff.mp hbrace
    obtain rfl := h.eq_cons
    simp only [head?_cons, bne_self_eq_false, Bool.false_eq_true, if_false]
    refine .rest ?_
    have hinside : Behind (if verbose then dropBlanks false more else more)
        (if verbose then dropBlanks false (more ++ closing) else more ++ closing) := by
      cases verbose with
      | false => exact .kept more
      | true => exact .dropBlanks false more
    simp only [drop_succ_cons, drop_zero]
    cases hnext : (if verbose then dropBlanks false more else more).head? with
    | none => exact .fail
    | some c =>
        rw [hinside.head? hnext]
        simp only
        split
        · exact .pure (.kept _) _
        · refine .drop (Persists.bind (persists_loop (fun done c => ?_) (fun _ _ h => by cases h) [])
            (fun name => ?_) (.kept more))
          · split
            · exact persists_pure _
            split
            · exact persists_pure _
            · exact persists_fail _
          · split
            · exact persists_fail _
            · exact persists_pure _
  · have hbrace' : cs'.head? ≠ some '\x7b' := mt (h.head?_eq_some_iff (by decide)).mp hbrace
    simp only [bne_iff_ne, ne_eq, hbrace, hbrace', not_false_eq_true, if_true]
    exact .pure h _

theorem persists_readEscape (verbose : Bool) : Persists (readEscape verbose) := by
  intro cs cs' h
  refine .peek h fun c more => .drop ((?_ : Persists _) (.kept more))
  split
  · exact persists_fail _
  split
  · exact (persists_readHex verbose _).bind fun _ => persists_pure _
  split
  · exact (persists_readProperty verbose _).bind fun _ => persists_pure _
  split
  · exact persists_pure _
  split
  · exact persists_pure _
  split
  · exact persists_pure _
  split
  · exact (persists_readBoundary verbose).bind fun _ => persists_pure _
  split
  · exact persists_pure _
  · exact persists_fail _

/-! ## Classes between brackets -/

theorem persists_openBracket (verbose : Bool) : Persists (openBracket verbose) := by
  have hbefore : Persists (do blanks verbose; peek .classUnclosed : Reader Char) :=
    (persists_blanks verbose).bind fun _ => persists_peek _
  intro cs cs' h
  rw [openBracket, bind_assoc]
  refine (persists_blanks verbose h).bind fun _ _ _ h => .peek h fun c more => ?_
  dsimp only
  split
  on_goal 1 => refine .drop (hbefore.discard.bind (fun _ => ?_) (.kept more))
  on_goal 2 => refine (?_ : Persists _) (.kept (c :: more))
  -- dashes, and a bracket that stands for itself, with or without a negation in front of them
  all_goals
    refine Persists.bind (persists_loop (fun dashes c => persists_pure _) (fun _ _ h => by cases h)
      []) fun dashes _ _ h => .peek h fun c more => ?_
    split
    · exact .drop (hbefore.discard.bind (fun _ => persists_pure _) (.kept more))
    · exact .pure (.kept _) _

/-- Where a name ends with a colon, it does so in front of the end of the group. -/
theorem span_append_closing (cs : List Char) :
    (∃ name back, cs.span (· != ':') = (name, ':' :: back) ∧
      (cs ++ closing).span (· != ':') = (name, ':' :: (back ++ closing))) ∨
    cs.span (· != ':') = (cs, []) ∧ (cs ++ closing).span (· != ':') = (cs ++ closing, []) := by
  have hname {name : List Char} (h : ':' ∉ name) : ∀ c ∈ name, (c != ':') = true := by
    intro c hc
    rw [bne_iff_ne]
    rintro rfl
    exact h hc
  have hnone {cs : List Char} (h : ':' ∉ cs) : cs.span (· != ':') = (cs, []) := by
    rw [span_eq_takeWhile_dropWhile, takeWhile_eq_self_iff.mpr (hname h),
      dropWhile_eq_nil_iff.mpr (hname h)]
  by_cases hcolon : ':' ∈ cs
  · obtain ⟨name, back, rfl, hfront⟩ := eq_append_cons_of_mem hcolon
    refine .inl ⟨name, back, ?_, ?_⟩ <;> rw [span_eq_takeWhile_dropWhile]
    · rw [takeWhile_append_of_pos (hname hfront), dropWhile_append_of_pos (hname hfront)]
      simp
    · rw [append_assoc, takeWhile_append_of_pos (hname hfront),
        dropWhile_append_of_pos (hname hfront)]
      simp
  · have hboth : ':' ∉ cs ++ closing := by simp [hcolon, closing]
    exact .inr ⟨hnone hcolon, hnone hboth⟩

theorem namedClass?_append_closing (cs : List Char) :
    namedClass? (cs ++ closing) = namedClass? cs := by
  cases cs with
  | nil => rfl
  | cons c inner =>
      by_cases hc : c = ':'
      · subst hc
        have hnegated : ((inner ++ closing).head? == some '^') = (inner.head? == some '^') := by
          rw [Bool.eq_iff_iff, beq_iff_eq, beq_iff_eq]
          exact (Behind.kept inner).head?_eq_some_iff (by decide)
        have hbehind : (if inner.head? == some '^' then (inner ++ closing).drop 1
            else inner ++ closing) =
            (if inner.head? == some '^' then inner.drop 1 else inner) ++ closing := by
          split
          · rename_i h
            obtain ⟨more, rfl⟩ := head?_eq_some_iff.mp (beq_iff_eq.mp h)
            rfl
          · rfl
        simp only [namedClass?, cons_append, hnegated, hbehind]
        rcases span_append_closing (if inner.head? == some '^' then inner.drop 1 else inner) with
          ⟨name, back, hspan, hspan'⟩ | ⟨hspan, hspan'⟩
        · rw [hspan, hspan']
          cases back with
          | nil => rfl
          | cons d back =>
              by_cases hd : d = ']'
              · subst hd
                rfl
              · simp [hd]
        · rw [hspan, hspan']
      · simp [namedClass?, hc]

theorem le_length_of_namedClass? {cs : List Char} {item : CharClass} {n : ℕ}
    (h : namedClass? cs = some (item, n)) : n ≤ cs.length := by
  unfold namedClass? at h
  split at h
  · rename_i inner
    simp only [span_eq_takeWhile_dropWhile] at h
    split at h
    · rename_i name tail hspan
      obtain ⟨set, -, hset⟩ := Option.map_eq_some_iff.mp h
      obtain ⟨hname, htail⟩ := Prod.mk.inj hspan
      have hinner := takeWhile_append_dropWhile (p := (· != ':'))
        (l := if inner.head? == some '^' then inner.drop 1 else inner)
      rw [hname, htail] at hinner
      have hlength := congrArg length hinner
      cases hset
      split at hlength <;> rename_i hnegated <;>
        simp only [hnegated, if_true, Bool.false_eq_true, if_false, length_append, length_cons,
          length_drop] at hlength ⊢ <;>
        omega
    · cases h
  · cases h

theorem persists_readClassItem (verbose : Bool) (c : Char) :
    Persists (readClassItem verbose c) := by
  rw [readClassItem]
  split
  · exact persists_readEscape verbose
  · exact persists_pure _

/-- What comes next but one is a bracket or a dash if it is one without the end of the group. -/
theorem peekBehind?_append_closing (verbose : Bool) (behind : List Char) {c : Char}
    (hc : c ≠ ')') (hblank : Text.isBlank c = false) (hcomment : c ≠ '#') :
    peekBehind? verbose (behind ++ closing) = some c ↔ peekBehind? verbose behind = some c := by
  have hhead (cs : List Char) : (cs ++ closing).head? = some c ↔ cs.head? = some c :=
    (Behind.kept cs).head?_eq_some_iff hc
  cases verbose with
  | false => exact hhead behind
  | true =>
      have hfront (h : behind.head? = some c) : behind.dropWhile Text.isBlank = behind := by
        obtain ⟨more, rfl⟩ := head?_eq_some_iff.mp h
        rw [dropWhile_cons, hblank]
        rfl
      simp only [peekBehind?, if_true, dropWhile_append_closing]
      cases hd : behind.dropWhile Text.isBlank with
      | nil =>
          have hne : behind.head? ≠ some c := by
            intro h
            rw [hfront h] at hd
            rw [hd] at h
            cases h
          simp [closing, hne, Ne.symm hc]
      | cons d more =>
          by_cases hopen : d = '#'
          · subst hopen
            have hne : behind.head? ≠ some c := by
              intro h
              rw [hfront h] at hd
              rw [hd] at h
              exact hcomment (Option.some.inj h).symm
            simp only [cons_append, dropWhile_append_closing]
            cases more.dropWhile Text.isBlank with
            | nil => simp [closing, hne, Ne.symm hc]
            | cons e more => rfl
          · simp [hopen]

theorem persists_readClassRange (verbose : Bool) (c : Char) :
    Persists (readClassRange verbose c) := by
  refine (persists_readClassItem verbose c).bind fun first => (persists_blanks verbose).bind
    fun _ _ _ h => .peek h fun next more => .rest ?_
  have hnext (mark : Char) (hmark : mark = ']' ∨ mark = '-') :
      (peekBehind? verbose (more ++ closing) == some mark) =
        (peekBehind? verbose more == some mark) := by
    rw [Bool.eq_iff_iff, beq_iff_eq, beq_iff_eq]
    rcases hmark with rfl | rfl <;>
      exact peekBehind?_append_closing verbose more (by decide) (by decide) (by decide)
  simp only [drop_succ_cons, drop_zero, hnext _ (.inl rfl), hnext _ (.inr rfl)]
  split
  · exact .ofExcept (.kept _) _
  · refine .drop ((persists_blanks verbose).bind (fun _ _ _ h => .peek h fun c more => .drop ?_)
      (.kept more))
    refine (persists_readClassItem verbose c).bind (fun last => (persists_ofExcept _).bind
      fun first => (persists_ofExcept _).bind fun last => ?_) (.kept more)
    split
    · exact persists_pure _
    · exact persists_fail _

theorem persists_readBracketed (verbose : Bool) : Persists (readBracketed verbose) := by
  refine (persists_openBracket verbose).bind fun outermost =>
    persists_loop (fun s c => ?_) (fun _ _ h => by cases h) _
  obtain ⟨level, outer⟩ := s
  simp only
  split
  · intro cs cs' h
    -- the name of a class, or one more bracket
    refine .rest ?_
    cases h with
    | swallowed => exact ((persists_openBracket verbose).bind fun _ => persists_pure _) .swallowed
    | kept =>
        rw [namedClass?_append_closing]
        cases hnamed : namedClass? cs with
        | none => exact ((persists_openBracket verbose).bind fun _ => persists_pure _) (.kept cs)
        | some named => exact .drop_of_le (le_length_of_namedClass? hnamed) (.pure (.kept _) _)
  split
  · cases outer with
    | nil => exact persists_pure _
    | cons enclosing outer => exact persists_pure _
  · intro cs cs' h
    refine .peek? ?_
    -- what closes the group is no operator, so nothing is doubled by it
    have hoperator : (if cs'.head? == some c then setOperator? c else none) =
        if cs.head? == some c then setOperator? c else none := by
      by_cases hc : c = ')'
      · subst hc
        simp [setOperator?]
      · simp [h.head?_eq_some_iff hc]
    rw [hoperator]
    by_cases hhead : cs.head? = some c
    · obtain ⟨more, rfl⟩ := head?_eq_some_iff.mp hhead
      obtain rfl := h.eq_cons
      split
      · exact .drop (.pure (.kept more) _)
      · exact ((persists_readClassRange verbose c).bind fun _ => persists_pure _) h
    · simp only [beq_iff_eq, hhead, if_false]
      exact ((persists_readClassRange verbose c).bind fun _ => persists_pure _) h

/-! ## Groups and repetitions -/

theorem persists_readGroupName (taken : List (List Char)) : Persists (readGroupName taken) := by
  refine Persists.bind (persists_loop (fun done c => ?_) (fun _ _ h => by cases h) [])
    fun name => ?_
  · split
    · exact persists_pure _
    split
    · exact persists_pure _
    · exact persists_fail _
  · dsimp only
    split
    · exact persists_fail_bind
    split
    · exact persists_fail_bind
    · exact persists_pure _

theorem persists_readFlags : Persists readFlags := by
  refine Persists.bind (persists_loop (fun run c => ?_) (fun _ _ h => by cases h) _) fun read => ?_
  · split
    · exact persists_pure _
    split
    · split
      · exact persists_fail _
      · exact persists_pure _
    split
    · exact persists_fail _
    split
    · exact persists_fail _
    · exact persists_pure _
  · dsimp only
    split
    · exact persists_fail_bind
    · exact persists_pure _

theorem persists_readOpening (verbose : Bool) (taken : List (List Char)) :
    Persists (readOpening verbose taken) := by
  refine (persists_blanks verbose).bind fun _ cs cs' h => .rest ?_
  simp only [any_cons, any_nil]
  rw [h.isPrefixOf (by decide), h.isPrefixOf (by decide), h.isPrefixOf (by decide),
    h.isPrefixOf (by decide)]
  split
  · exact persists_fail_bind h
  refine ((persists_dropIf (by decide)).orM (persists_dropIf (by decide))).bind (fun named => ?_) h
  split
  · exact (persists_readGroupName taken).bind fun _ => persists_pure _
  refine (persists_dropIf (by decide)).bind fun flagged => ?_
  split
  · refine (persists_peek _).discard.bind fun _ => persists_readFlags.bind fun read => ?_
    split
    · exact persists_pure _
    split
    · exact persists_fail _
    · exact persists_pure _
  · exact persists_pure _

/-- A number may end with the text, and then it ends in front of the end of the group. -/
theorem persists_readCount (verbose : Bool) : Persists (readCount verbose) := by
  refine persists_dropWhile.bind fun _ => Persists.bind (persists_loop (fun digits c => ?_)
    (fun digits _ h => ?_) []) fun digits => persists_dropWhile.bind fun _ => ?_
  · exact persists_pure _
  · cases h
    rw [closing, run_loop_cons, skipped?_close]
    rfl
  · dsimp only
    split
    · exact persists_pure _
    · exact persists_pure _

theorem persists_readCounts (verbose : Bool) : Persists (readCounts verbose) := by
  have hclose (counts : ℕ × Option ℕ) : Persists (do
      if (← peek .repetitionCountUnclosed) != '\x7d' then fail .repetitionCountUnclosed
      drop 1
      return counts : Reader (ℕ × Option ℕ)) := by
    refine fun _ _ h => .peek h fun c more => ?_
    dsimp only
    split
    · exact persists_fail_bind (.kept (c :: more))
    · exact .drop (.pure (.kept more) _)
  refine (persists_blanks verbose).bind fun _ => (persists_peek _).discard.bind fun _ =>
    (persists_readCount verbose).bind fun least _ _ h => .peek h fun c more => ?_
  split
  · refine .drop ((persists_blanks verbose).bind (fun _ _ _ h => .peek h fun c more => ?_)
      (.kept more))
    split
    · exact .ofExcept_bind fun least => .drop (.pure (.kept more) _)
    · exact (persists_ofExcept least).bind (fun least => (persists_readCount verbose).bind
        fun most => (persists_ofExcept most).bind fun most => hclose (least, some most))
        (.kept (c :: more))
  · exact (persists_ofExcept least).bind (fun least => hclose (least, some least))
      (.kept (c :: more))

theorem persists_readRepetition (verbose : Bool) (c : Char) :
    Persists (readRepetition verbose c) := by
  rw [readRepetition]
  dsimp only
  split
  on_goal 2 => split
  on_goal 3 => split
  on_goal 4 =>
    refine (persists_readCounts verbose).bind fun counts => (persists_blanks verbose).bind fun _ => ?_
  -- a mark that few rounds are preferred, and bounds in the wrong order, behind any counts
  all_goals
    refine (persists_pure _).bind fun counts => (persists_dropIf (by decide)).discard.bind
      fun _ => ?_
    split
    · split
      · exact persists_fail_bind
      · exact persists_pure _
    · exact persists_pure _

theorem persists_readOnto (p : Partial) (c : Char) : Persists (readOnto p c) := by
  rw [readOnto]
  split
  · refine (persists_readOpening p.verbose p.names).bind fun opening => ?_
    cases opening with
    | changes changes => exact persists_pure _
    | unnamed kind => exact persists_pure _
    | named name => exact persists_pure _
  split
  · exact persists_ofExcept _
  split
  · exact persists_pure _
  split
  · exact (persists_readBracketed p.verbose).bind fun _ => persists_pure _
  split
  · exact (persists_ofExcept _).bind fun out =>
      (persists_readRepetition out.2.verbose c).bind fun _ => persists_pure _
  split
  · exact (persists_readEscape p.verbose).bind fun _ => persists_pure _
  split
  · exact persists_pure _
  split
  · exact persists_pure _
  split
  · exact persists_pure _
  · exact persists_pure _

end Reader

end TrafficCapture.Pattern
