import Mathlib.Order.Bounds.Basic
import TrafficCapture.Control.Service
import TrafficCapture.Proofs.Query.Scan

/-! # Stages

What is looked at in a request comes in stages, and every failure belongs to one. A computation
answers in order if it fails exactly when something is at fault, and then at the earliest stage at
which something is. The rule for two computations in a row, with a fact about every reader of
parameters and of the store, gives this of whole requests. -/

namespace TrafficCapture.Control

open Query

/-- What is looked at in a request, the earliest first. -/
inductive Stage where
  | route
  | method
  | port
  | parameters
  | pattern
  | store
  | timeout
  deriving DecidableEq, Repr

namespace Stage

def rank : Stage → ℕ
  | route => 0
  | method => 1
  | port => 2
  | parameters => 3
  | pattern => 4
  | store => 5
  | timeout => 6

theorem rank_injective : Function.Injective rank := by
  intro σ τ h
  cases σ <;> cases τ <;> first | rfl | cases h

instance : LinearOrder Stage := LinearOrder.lift' rank rank_injective

/-- The status of replies to a request that fails at the stage. -/
def status : Stage → ℕ
  | route => 404
  | method => 405
  | port => 400
  | parameters => 400
  | pattern => 400
  | store => 503
  | timeout => 504

/-- The kinds of failures that belong to the stage. -/
def kinds : Stage → List String
  | route => ["not_found"]
  | method => ["method_not_allowed"]
  | port => ["invalid_port"]
  | parameters => ["missing_parameter", "invalid_parameter"]
  | pattern => ["invalid_pattern"]
  | store => ["store_unavailable"]
  | timeout => ["timeout"]

end Stage

/-- The stage that a failure belongs to. -/
def Failure.stage : Failure → Stage
  | .query (.invalidPattern ..) => .pattern
  | .query (.invalidPort _) => .port
  | .query .storeUnavailable => .store
  | .query (.timeout _) => .timeout
  | .missingParameter _ => .parameters
  | .invalidParameter .. => .parameters
  | .notFound _ => .route
  | .methodNotAllowed .. => .method

theorem Failure.status_eq_stage (f : Failure) : f.status = f.stage.status := by
  rcases f with (_ | _ | _ | _) | _ | _ | _ | _ <;> rfl

theorem Failure.kind_mem_stage (f : Failure) : f.kind ∈ f.stage.kinds := by
  rcases f with (_ | _ | _ | _) | _ | _ | _ | _ <;> simp [kind, stage, Stage.kinds]

/-! ## Answering in order -/

/-- One thing that may be at fault at a stage. -/
def fault (σ : Stage) (P : Prop) : Set Stage := {τ | τ = σ ∧ P}

@[simp]
theorem mem_fault {σ τ : Stage} {P : Prop} : τ ∈ fault σ P ↔ τ = σ ∧ P := Iff.rfl

/-- A computation fails exactly if there are faults, and then at the earliest stage with one. -/
def InOrder {α : Type} (faults : Set Stage) : Except Failure α → Prop
  | .ok _ => ∀ σ, σ ∉ faults
  | .error f => IsLeast faults f.stage

namespace InOrder

variable {α β : Type} {φ ψ : Set Stage} {σ : Stage} {P Q : Prop} {x : Except Failure α}

theorem congr (h : InOrder φ x) (heq : ∀ σ, σ ∈ φ ↔ σ ∈ ψ) : InOrder ψ x := by
  have : φ = ψ := Set.ext heq
  rwa [← this]

theorem of_ok {a : α} (hP : ¬ P) : InOrder (fault σ P) (.ok a : Except Failure α) :=
  fun _ hmem => hP hmem.2

theorem of_error {f : Failure} (hf : f.stage = σ) (hP : P) :
    InOrder (fault σ P) (.error f : Except Failure α) := by
  refine ⟨⟨hf, hP⟩, ?_⟩
  rintro τ ⟨rfl, -⟩
  exact le_of_eq hf

theorem not_of_ok {a : α} (h : InOrder (fault σ P) (.ok a : Except Failure α)) : ¬ P :=
  fun hP => h σ ⟨rfl, hP⟩

theorem map (h : InOrder φ x) (g : α → β) : InOrder φ (x.map g) := by
  cases x with
  | ok a => exact h
  | error f => exact h

/-- What is computed second may depend on the first result, and is to fail at no stage before one
at which the first may. -/
theorem bind {g : α → Except Failure β} (hx : InOrder φ x)
    (hg : ∀ a, x = .ok a → InOrder ψ (g a)) (hle : ∀ σ ∈ φ, ∀ τ ∈ ψ, σ ≤ τ) :
    InOrder (φ ∪ ψ) (x >>= g) := by
  cases x with
  | ok a =>
      have hφ : φ = ∅ := Set.eq_empty_iff_forall_notMem.mpr hx
      rw [hφ, Set.empty_union]
      exact hg a rfl
  | error f =>
      refine ⟨Or.inl hx.1, ?_⟩
      rintro τ (hτ | hτ)
      · exact hx.2 hτ
      · exact hle f.stage hx.1 τ hτ

/-- What ends by returning something has the faults of what comes before. -/
theorem bind_ok {g : α → Except Failure β} (hx : InOrder φ x) (hg : ∀ a, ∃ b, g a = .ok b) :
    InOrder φ (x >>= g) := by
  cases x with
  | ok a =>
      obtain ⟨b, hb⟩ := hg a
      have heq : (Except.ok a >>= g) = .ok b := hb
      rw [heq]
      exact hx
  | error f => exact hx

end InOrder

/-! ## Reading parameters -/

/-- What a request is asked for in a parameter. -/
inductive Demand where
  | given (name : String)
  | nonEmpty (name : String)
  /-- A number of at most 64 bits. -/
  | number (name : String)
  /-- A status code of three digits. -/
  | status (name : String)
  deriving DecidableEq, Repr

def Demand.Met (p : Parameters) : Demand → Prop
  | given name => ∃ value, p.get? name = some value
  | nonEmpty name => ∃ value, p.get? name = some value ∧ value ≠ ""
  | number name => ∃ value n, p.get? name = some value ∧
      Text.readWord64 (Text.trim value.toList) = .ok n
  | status name => ∃ value code, p.get? name = some value ∧
      Text.readPort (Text.trim value.toList) = .ok code ∧ 100 ≤ code ∧ code ≤ 999

/-- A text is a pattern. -/
def Compiles (source : String) : Prop := ∃ pattern, Pattern.compile source = .ok pattern

section

variable (p : Parameters) (name : String)

variable {p name} in
theorem require_eq_ok {value : String} :
    p.require name = .ok value ↔ p.get? name = some value := by
  unfold Parameters.require
  cases p.get? name <;> simp

theorem require_inOrder :
    InOrder (fault .parameters (¬ (Demand.given name).Met p)) (p.require name) := by
  unfold Parameters.require
  cases h : p.get? name with
  | none => exact InOrder.of_error rfl (by simp [Demand.Met, h])
  | some value => exact InOrder.of_ok (by simp [Demand.Met, h])

theorem requireNonEmpty_inOrder :
    InOrder (fault .parameters (¬ (Demand.nonEmpty name).Met p)) (p.requireNonEmpty name) := by
  unfold Parameters.requireNonEmpty Parameters.nonEmpty?
  cases h : p.get? name with
  | none => exact InOrder.of_error rfl (by simp [Demand.Met, h])
  | some value =>
      by_cases hempty : value = ""
      · have hfilter : (some value).filter (!·.isEmpty) = none := by simp [hempty]
        rw [hfilter]
        exact InOrder.of_error rfl (by simp [Demand.Met, h, hempty])
      · have hfilter : (some value).filter (!·.isEmpty) = some value := by simp [hempty]
        rw [hfilter]
        exact InOrder.of_ok (by simp [Demand.Met, h, hempty])

theorem requireWord64_inOrder :
    InOrder (fault .parameters (¬ (Demand.number name).Met p)) (p.requireWord64 name) := by
  unfold Parameters.requireWord64 Parameters.require
  cases h : p.get? name with
  | none => exact InOrder.of_error rfl (by simp [Demand.Met, h])
  | some value =>
      cases hread : Text.readWord64 (Text.trim value.toList) with
      | ok n =>
          simp only [bind, Except.bind, hread, Except.mapError]
          exact InOrder.of_ok (by simp [Demand.Met, h, hread])
      | error e =>
          simp only [bind, Except.bind, hread, Except.mapError]
          exact InOrder.of_error rfl (by simp [Demand.Met, h, hread])

theorem requireStatus_inOrder :
    InOrder (fault .parameters (¬ (Demand.status name).Met p)) (p.requireStatus name) := by
  unfold Parameters.requireStatus Parameters.require
  cases h : p.get? name with
  | none => exact InOrder.of_error rfl (by simp [Demand.Met, h])
  | some value =>
      cases hread : Text.readPort (Text.trim value.toList) with
      | ok code =>
          simp only [bind, Except.bind, hread]
          by_cases hrange : 100 ≤ code ∧ code ≤ 999
          · rw [if_pos (by simpa using hrange)]
            exact InOrder.of_ok (by simp [Demand.Met, h, hread, hrange])
          · rw [if_neg (by simpa using hrange)]
            refine InOrder.of_error rfl ?_
            rintro ⟨value', code', hvalue, hcode, hrange'⟩
            obtain rfl := Option.some.inj (h.symm.trans hvalue)
            obtain rfl := Except.ok.inj (hread.symm.trans hcode)
            exact hrange hrange'
      | error e =>
          simp only [bind, Except.bind, hread]
          exact InOrder.of_error rfl (by simp [Demand.Met, h, hread])

theorem parsePort_inOrder (raw : String) :
    InOrder (fault .port (¬ ∃ port, parsePort raw = .ok port))
      ((parsePort raw).mapError Failure.query) := by
  unfold parsePort
  cases Text.readPort (Text.trim raw.toList) with
  | error e => exact InOrder.of_error rfl (by simp)
  | ok port =>
      by_cases hzero : 0 < port
      · simp only [hzero, if_true]
        exact InOrder.of_ok (by simp)
      · simp only [hzero, if_false]
        exact InOrder.of_error rfl (by simp)

variable {p name} in
theorem port?_eq_ok {port : Option UInt16} :
    p.port? name = .ok port ↔ (p.get? name).mapM parsePort = .ok port := by
  unfold Parameters.port?
  cases p.get? name with
  | none => simp [pure, Except.pure]
  | some raw =>
      simp only [Option.mapM_some]
      cases parsePort raw <;> simp [Except.mapError, Except.map]

theorem port?_inOrder :
    InOrder (fault .port (¬ ∃ port, (p.get? name).mapM parsePort = .ok port))
      (p.port? name) := by
  unfold Parameters.port?
  cases h : p.get? name with
  | none => exact InOrder.of_ok (by simp [pure, Except.pure])
  | some raw =>
      refine ((parsePort_inOrder raw).map some).congr fun σ => ?_
      simp only [Option.mapM_some]
      cases parsePort raw <;> simp

theorem compile_eq_ok {source : String} {pattern : Pattern} :
    compile source = .ok pattern ↔ Pattern.compile source = .ok pattern := by
  unfold compile Query.compile
  cases Pattern.compile source <;> simp [Except.mapError]

theorem compile_inOrder (source : String) :
    InOrder (fault .pattern (¬ Compiles source)) (compile source) := by
  unfold compile Query.compile
  cases h : Pattern.compile source with
  | ok pattern => exact InOrder.of_ok (by simp [Compiles, h])
  | error e => exact InOrder.of_error rfl (by simp [Compiles, h])

end

/-! ## The store -/

/-- The scan of a snapshot for what a check is about comes upon the deadline. A search from the end
does so only before it has found anything. -/
def Extent.Late (s : Setting) (ports : PortFilter) (pattern : Pattern)
    (snapshot : List Exchange) : Extent → Prop
  | .all => Overdue s.deadline s.clock snapshot.length
  | .mostRecent => ∃ index < snapshot.length, Expired s.deadline s.clock index ∧
      ∀ e ∈ snapshot.reverse.take index, selects ports pattern e = false

section

variable (s : Setting) (ports : PortFilter) (pattern : Pattern)

theorem get_inOrder :
    InOrder (fault .store (s.registry.current = none)) (s.registry.get.mapError Failure.query) := by
  unfold Registry.get
  cases h : s.registry.current with
  | none => exact InOrder.of_error rfl rfl
  | some ref => exact InOrder.of_ok (by simp)

theorem snapshot_inOrder :
    InOrder (fault .store (s.registry.current = none)) s.snapshot :=
  (get_inOrder s).map _

theorem filter_inOrder (snapshot : List Exchange) :
    InOrder (fault .timeout (Extent.all.Late s ports pattern snapshot))
      ((filter s.deadline s.clock ports pattern snapshot).mapError Failure.query) := by
  rcases filter_spec s.deadline s.clock ports pattern snapshot with
    ⟨hlate, ms, heq⟩ | ⟨htimely, heq⟩
  · rw [heq]
    exact InOrder.of_error rfl hlate
  · rw [heq]
    exact InOrder.of_ok htimely

theorem mostRecent_inOrder (snapshot : List Exchange) :
    InOrder (fault .timeout (Extent.mostRecent.Late s ports pattern snapshot))
      ((mostRecent s.deadline s.clock ports pattern snapshot).mapError Failure.query) := by
  rcases mostRecent_spec s.deadline s.clock ports pattern snapshot with
    ⟨index, hindex, hexpired, hnone, ms, heq⟩ | ⟨hfound, heq⟩
  · rw [heq]
    exact InOrder.of_error rfl ⟨index, hindex, hexpired, hnone⟩
  · rw [heq]
    refine InOrder.of_ok ?_
    rintro ⟨index, hindex, hexpired, hnone⟩
    obtain ⟨e, he, hselects⟩ := hfound index hindex hexpired
    rw [hnone e he] at hselects
    cases hselects

/-- The faults of looking something up in the store. -/
def storeFaults (extent : Extent) : Set Stage :=
  fault .store (s.registry.current = none) ∪
    fault .timeout (∃ snapshot, s.snapshot = .ok snapshot ∧ extent.Late s ports pattern snapshot)

/-- A scan of the current store answers in order if the scan of its snapshot does. -/
theorem inOrder_of_snapshot {α : Type} {extent : Extent} {scan : List Exchange → Except Failure α}
    (h : ∀ snapshot, InOrder (fault .timeout (extent.Late s ports pattern snapshot))
      (scan snapshot)) :
    InOrder (storeFaults s ports pattern extent) (s.snapshot >>= scan) := by
  refine (snapshot_inOrder s).bind (fun snapshot hsnapshot => ?_) ?_
  · refine (h snapshot).congr fun σ => ?_
    simp [hsnapshot]
  · rintro _ ⟨rfl, -⟩ _ ⟨rfl, -⟩
    decide

theorem select_inOrder :
    InOrder (storeFaults s ports pattern .all) (s.select ports pattern) :=
  inOrder_of_snapshot s ports pattern (filter_inOrder s ports pattern)

theorem selectLast_inOrder :
    InOrder (storeFaults s ports pattern .mostRecent) (s.selectLast ports pattern) :=
  inOrder_of_snapshot s ports pattern (mostRecent_inOrder s ports pattern)

end

end TrafficCapture.Control
