import KataDeviceProvisioner.Ports.Bench
import KataDeviceProvisioner.Verified.Lists
import Mathlib.Data.Prod.Lex

/-!
# What the holder scan finds

`Holds` says what it is for a process to hold a device, on one snapshot of the
proc root.  The scan finds exactly the processes that hold the device, each once
for each node, in order (`idleScan_exact`), and the idle gate passes exactly the
devices nothing holds.
-/

namespace KataDeviceProvisioner.Ports

open KataDeviceProvisioner.Verified

namespace Idle

variable {proc : Proc} {devVfio : Path} {sysfs : Sysfs} {state : DeviceState}
  {nodes : List Path} {pid : Nat} {node : Path}

/-- What the scan sorts by. -/
def Holder.key (holder : Holder) : ℕ ×ₗ Path := toLex (holder.pid, holder.node)

/-- The VFIO nodes of a device: that of its group and those of its cdevs. -/
def IsNode (devVfio : Path) (sysfs : Sysfs) (state : DeviceState) (node : Path) : Prop :=
  (0 ≤ state.iommuGroup ∧ node = devVfio ++ [toString state.iommuGroup]) ∨
    ∃ names, sysfs.vfioDev state.address = some names ∧
      ∃ name ∈ names, node = devVfio ++ ["devices", name]

/-- The process `pid` has `node` open, which is a node of the device. -/
def Holds (proc : Proc) (devVfio : Path) (sysfs : Sysfs) (state : DeviceState) (pid : Nat)
    (node : Path) : Prop :=
  ∃ entries, proc.entries = some entries ∧ ∃ process ∈ entries,
    process.name.bind parsePid = some pid ∧
      ∃ fds, process.fds = some fds ∧ some node ∈ fds ∧ IsNode devVfio sysfs state node

/-- The proc root is a directory, and its numeric entries are pids as they
print. -/
structure Procfs (proc : Proc) : Prop where
  distinct : ∀ entries, proc.entries = some entries →
    (entries.filterMap (·.name)).Nodup
  canonical : ∀ entries, proc.entries = some entries → ∀ process ∈ entries, ∀ name pid,
    process.name = some name → parsePid name = some pid → name = toString pid

/-- The pairs the scan finds, in the order it finds them in. -/
def pairs (proc : Proc) (devVfio : Path) (sysfs : Sysfs) (state : DeviceState) :
    List (ℕ ×ₗ Path) :=
  (holders proc devVfio sysfs state).map Holder.key

/-! ## Which nodes, and who holds them -/

theorem mem_vfioNodes : node ∈ vfioNodes devVfio sysfs state ↔ IsNode devVfio sysfs state node := by
  unfold vfioNodes IsNode
  rw [List.mem_append]
  refine or_congr ?_ ?_
  · by_cases hgroup : 0 ≤ state.iommuGroup
    · simp [hgroup]
    · simp [hgroup]
  · cases hnames : sysfs.vfioDev state.address with
    | none => simp
    | some names => simp [eq_comm]

/-- What one process holds is one entry for each of its open nodes. -/
theorem mem_holdersIn {process : Process} {holder : Holder} :
    holder ∈ holdersIn nodes process ↔
      ∃ fds, process.name.bind parsePid = some holder.pid ∧ process.fds = some fds ∧
        some holder.node ∈ fds ∧ holder.node ∈ nodes ∧
          holder.comm = (process.comm.map trim).getD "?" := by
  unfold holdersIn
  cases hpid : process.name.bind parsePid with
  | none => simp
  | some pid =>
      cases hfds : process.fds with
      | none => simp
      | some fds =>
          simp only [List.mem_filterMap]
          constructor
          · rintro ⟨fd, hfd, hsome⟩
            cases fd with
            | none => cases hsome
            | some target =>
                by_cases hnode : nodes.contains target = true
                · simp only [hnode, if_true, Option.some.injEq] at hsome
                  subst hsome
                  exact ⟨fds, rfl, rfl, hfd, by simpa using hnode, rfl⟩
                · simp only [hnode] at hsome
                  cases hsome
          · rintro ⟨fds', hpid', hfds', hfd, hnode, hcomm⟩
            obtain rfl := Option.some.inj hpid'
            obtain rfl := Option.some.inj hfds'
            refine ⟨some holder.node, hfd, ?_⟩
            have hcontains : nodes.contains holder.node = true := by simpa using hnode
            simp only [hcontains, if_true, ← hcomm]

/-- The scan before sorting. -/
def found (proc : Proc) (nodes : List Path) : List Holder :=
  (proc.entries.getD []).flatMap (holdersIn nodes)

theorem holders_eq : holders proc devVfio sysfs state =
    ((found proc (vfioNodes devVfio sysfs state)).insertionSort (fun a b => a.le b)).destutter
      (· ≠ ·) := by
  unfold holders found
  by_cases hnodes : (vfioNodes devVfio sysfs state).isEmpty = true
  · have hnil : vfioNodes devVfio sysfs state = [] := by simpa [List.isEmpty_iff] using hnodes
    have hnone : ∀ entries : List Process, entries.flatMap (holdersIn []) = [] := by
      intro entries
      rw [List.flatMap_eq_nil_iff]
      intro process _
      rw [List.eq_nil_iff_forall_not_mem]
      intro holder hholder
      obtain ⟨_, _, _, _, hnode, _⟩ := mem_holdersIn.mp hholder
      cases hnode
    rw [hnil, hnone]
    rfl
  · rw [if_neg hnodes]
    cases proc.entries with
    | none => rfl
    | some entries => rfl

theorem mem_holders {holder : Holder} :
    holder ∈ holders proc devVfio sysfs state ↔
      holder ∈ found proc (vfioNodes devVfio sysfs state) := by
  rw [holders_eq, mem_destutter_ne, List.mem_insertionSort]

theorem mem_pairs : toLex (pid, node) ∈ pairs proc devVfio sysfs state ↔
    Holds proc devVfio sysfs state pid node := by
  unfold pairs Holds
  rw [List.mem_map]
  constructor
  · rintro ⟨holder, hholder, hkey⟩
    obtain ⟨rfl, rfl⟩ := Prod.mk.inj hkey
    obtain ⟨process, hprocess, hin⟩ := List.mem_flatMap.mp (mem_holders.mp hholder)
    obtain ⟨fds, hpid, hfds, hfd, hnode, _⟩ := mem_holdersIn.mp hin
    cases hentries : proc.entries with
    | none =>
        rw [hentries] at hprocess
        cases hprocess
    | some entries =>
        rw [hentries] at hprocess
        exact ⟨entries, rfl, process, hprocess, hpid, fds, hfds, hfd, mem_vfioNodes.mp hnode⟩
  · rintro ⟨entries, hentries, process, hprocess, hpid, fds, hfds, hfd, hnode⟩
    refine ⟨⟨pid, (process.comm.map trim).getD "?", node⟩, ?_, rfl⟩
    rw [mem_holders, found, hentries]
    exact List.mem_flatMap.mpr
      ⟨process, hprocess, mem_holdersIn.mpr ⟨fds, hpid, hfds, hfd, mem_vfioNodes.mpr hnode, rfl⟩⟩

theorem holders_eq_nil_iff : holders proc devVfio sysfs state = [] ↔
    ∀ pid node, ¬Holds proc devVfio sysfs state pid node := by
  have hpairs : holders proc devVfio sysfs state = [] ↔ pairs proc devVfio sysfs state = [] :=
    (List.map_eq_nil_iff).symm
  rw [hpairs, List.eq_nil_iff_forall_not_mem]
  constructor
  · intro h pid node hholds
    exact h _ (mem_pairs.mpr hholds)
  · intro h pair hpair
    exact h pair.1 pair.2 (mem_pairs.mp hpair)

/-! ## The order -/

theorem Holder.le_iff (a b : Holder) : a.le b = true ↔ a.key ≤ b.key := by
  rw [Holder.key, Holder.key, Prod.Lex.toLex_le_toLex]
  simp [Holder.le]

/-- A pid prints one name, which one entry of the proc root has. -/
theorem Procfs.process_eq (hproc : Procfs proc) {entries : List Process}
    (hentries : proc.entries = some entries) {process process' : Process}
    (hprocess : process ∈ entries) (hprocess' : process' ∈ entries)
    (hpid : process.name.bind parsePid = some pid)
    (hpid' : process'.name.bind parsePid = some pid) : process = process' := by
  obtain ⟨name, hname, hparsed⟩ := Option.bind_eq_some_iff.mp hpid
  obtain ⟨name', hname', hparsed'⟩ := Option.bind_eq_some_iff.mp hpid'
  rw [hproc.canonical entries hentries process hprocess name pid hname hparsed] at hname
  rw [hproc.canonical entries hentries process' hprocess' name' pid hname' hparsed'] at hname'
  exact eq_of_nodup_filterMap (hproc.distinct entries hentries) hprocess hprocess' hname hname'

/-- So two finds of one pair are the same find. -/
theorem Procfs.eq_of_key (hproc : Procfs proc) {a b : Holder} (ha : a ∈ found proc nodes)
    (hb : b ∈ found proc nodes) (hkey : a.key = b.key) : a = b := by
  obtain ⟨hpid, hnode⟩ := Prod.mk.inj hkey
  unfold found at ha hb
  cases hentries : proc.entries with
  | none =>
      rw [hentries] at ha
      cases ha
  | some entries =>
      rw [hentries] at ha hb
      obtain ⟨process, hprocess, hin⟩ := List.mem_flatMap.mp ha
      obtain ⟨process', hprocess', hin'⟩ := List.mem_flatMap.mp hb
      obtain ⟨_, hparsed, _, _, _, hcomm⟩ := mem_holdersIn.mp hin
      obtain ⟨_, hparsed', _, _, _, hcomm'⟩ := mem_holdersIn.mp hin'
      rw [← hpid] at hparsed'
      rw [hproc.process_eq hentries hprocess hprocess' hparsed hparsed', ← hcomm'] at hcomm
      cases a
      cases b
      simp only at hpid hnode hcomm
      rw [hpid, hnode, hcomm]

theorem pairs_eq (hproc : Procfs proc) :
    pairs proc devVfio sysfs state =
      sortDedup ((found proc (vfioNodes devVfio sysfs state)).map Holder.key) := by
  unfold pairs
  rw [holders_eq]
  exact map_sort_destutter Holder.key _ Holder.le_iff fun a ha b hb => hproc.eq_of_key ha hb

theorem Procfs.ordered (hproc : Procfs proc) :
    (pairs proc devVfio sysfs state).Pairwise (· < ·) := by
  rw [pairs_eq hproc]
  exact pairwise_lt_sortDedup _

/-! ## Processes that go away -/

/-- What is left to see of a process that goes away: nothing that was not there
before. -/
structure Fades (process process' : Process) : Prop where
  name : process'.name = none ∨ process'.name = process.name
  fds : ∀ fds', process'.fds = some fds' → ∃ fds, process.fds = some fds ∧
    ∀ target, some target ∈ fds' → some target ∈ fds

/-- The proc root while one process of it goes away. -/
inductive Vanishing (process : Process) : Proc → Proc → Prop where
  | mk (before after : List Process) (left : Option Process)
      (fades : ∀ process' ∈ left, Fades process process') :
      Vanishing process ⟨some (before ++ process :: after)⟩
        ⟨some (before ++ (left.toList ++ after))⟩

/-- A process that goes away takes nothing but its own pairs with it. -/
theorem Vanishing.holds {process : Process} {proc' : Proc} (h : Vanishing process proc proc') :
    (Holds proc' devVfio sysfs state pid node → Holds proc devVfio sysfs state pid node) ∧
      (Holds proc devVfio sysfs state pid node →
        Holds proc' devVfio sysfs state pid node ∨
          process.name.bind parsePid = some pid) := by
  obtain ⟨before, after, left, hfades⟩ := h
  constructor
  · rintro ⟨entries, hentries, shown, hshown, hpid, fds, hfds, hfd, hnode⟩
    obtain rfl := Option.some.inj hentries
    have hold : ∀ p ∈ before ++ process :: after, p.name.bind parsePid = some pid →
        (∃ fds, p.fds = some fds ∧ some node ∈ fds) →
        Holds ⟨some (before ++ process :: after)⟩ devVfio sysfs state pid node :=
      fun p hp hpid ⟨fds, hfds, hfd⟩ => ⟨_, rfl, p, hp, hpid, fds, hfds, hfd, hnode⟩
    rcases List.mem_append.mp hshown with hbefore | hrest
    · exact hold shown (List.mem_append_left _ hbefore) hpid ⟨fds, hfds, hfd⟩
    rcases List.mem_append.mp hrest with hleft | hafter
    · have hshows := hfades shown (Option.mem_toList.mp hleft)
      obtain ⟨fds₀, hfds₀, hsub⟩ := hshows.fds fds hfds
      refine hold process (by simp) ?_ ⟨fds₀, hfds₀, hsub node hfd⟩
      rcases hshows.name with hnone | hsame
      · rw [hnone] at hpid
        cases hpid
      · rwa [← hsame]
    · exact hold shown (by simp [hafter]) hpid ⟨fds, hfds, hfd⟩
  · rintro ⟨entries, hentries, shown, hshown, hpid, fds, hfds, hfd, hnode⟩
    obtain rfl := Option.some.inj hentries
    have hkept : shown ∈ before ++ (left.toList ++ after) →
        Holds ⟨some (before ++ (left.toList ++ after))⟩ devVfio sysfs state pid node :=
      fun hkept => ⟨_, rfl, shown, hkept, hpid, fds, hfds, hfd, hnode⟩
    rcases List.mem_append.mp hshown with hbefore | hrest
    · exact .inl (hkept (List.mem_append_left _ hbefore))
    rcases List.mem_cons.mp hrest with rfl | hafter
    · exact .inr hpid
    · exact .inl (hkept (by simp [hafter]))

end Idle

namespace Main

open Idle

theorem verifyIdle_ok {plat : Platform} {sysfs : Sysfs} {states : List DeviceState} :
    verifyIdle plat sysfs states = .ok () ↔
      ∀ state ∈ states, Idle.holders plat.proc plat.devVfio sysfs state = [] := by
  unfold verifyIdle
  rw [forM_eq_ok_iff]
  refine forall₂_congr fun state _ => ?_
  cases Idle.holders plat.proc plat.devVfio sysfs state with
  | nil => simp
  | cons holder rest => simp [bail]

/-- What the scan of a snapshot comes to. -/
structure IdleScan (plat : Platform) (sysfs : Sysfs) : Prop where
  exact : ∀ state pid node,
    toLex (pid, node) ∈ pairs plat.proc plat.devVfio sysfs state ↔
      Holds plat.proc plat.devVfio sysfs state pid node
  /-- Strictly, so each pair is there once. -/
  ordered : ∀ state, (pairs plat.proc plat.devVfio sysfs state).Pairwise (· < ·)
  /-- Directories listed another way make no difference. -/
  listing : ∀ proc' sysfs' state, Procfs proc' →
    (∀ pid node, Holds proc' plat.devVfio sysfs' state pid node ↔
      Holds plat.proc plat.devVfio sysfs state pid node) →
    pairs proc' plat.devVfio sysfs' state = pairs plat.proc plat.devVfio sysfs state
  idle : ∀ states, verifyIdle plat sysfs states = .ok () ↔
    ∀ state ∈ states, ∀ pid node, ¬Holds plat.proc plat.devVfio sysfs state pid node
  /-- A process that goes away during the scan takes only its own pairs along. -/
  vanishing : ∀ process proc' state, Vanishing process plat.proc proc' →
    (∀ pair ∈ pairs proc' plat.devVfio sysfs state,
      pair ∈ pairs plat.proc plat.devVfio sysfs state) ∧
    ∀ pair ∈ pairs plat.proc plat.devVfio sysfs state,
      pair ∈ pairs proc' plat.devVfio sysfs state ∨
        process.name.bind parsePid = some (ofLex pair).1

/-- The scan finds what holds the device, and the idle gate goes by it. -/
theorem idleScan_exact (plat : Platform) (sysfs : Sysfs) (hproc : Procfs plat.proc) :
    IdleScan plat sysfs where
  exact _ _ _ := mem_pairs
  ordered _ := hproc.ordered
  listing proc' sysfs' state hproc' hsame :=
    hproc'.ordered.eq_of_mem_iff hproc.ordered fun pair =>
      mem_pairs.trans ((hsame pair.1 pair.2).trans mem_pairs.symm)
  idle states := by
    rw [verifyIdle_ok]
    exact forall₂_congr fun state _ => holders_eq_nil_iff
  vanishing process proc' state h := by
    constructor
    · intro pair hpair
      exact mem_pairs.mpr (h.holds.1 (mem_pairs.mp hpair))
    · intro pair hpair
      exact (h.holds.2 (mem_pairs.mp hpair)).imp_left mem_pairs.mpr

/-- A VM that has its group open twice, beside a process that is not readable and
an entry that is no process. -/
def busyProc : Idle.Proc where
  entries := some
    [ { name := some "self", fds := some [some ["dev", "vfio", "14"]], comm := none }
    , { name := some "4242"
        fds := some [some ["dev", "vfio", "14"], none, some ["dev", "vfio", "14"]]
        comm := some "qemu-system-x86
" }
    , { name := some "17", fds := none, comm := none } ]

theorem busyProc_procfs : Procfs busyProc where
  distinct entries hentries := by
    obtain rfl := Option.some.inj hentries
    decide
  canonical entries hentries process hprocess name pid hname hpid := by
    obtain rfl := Option.some.inj hentries
    simp only [List.mem_cons, List.not_mem_nil, or_false] at hprocess
    rcases hprocess with rfl | rfl | rfl
    · obtain rfl := Option.some.inj hname
      rw [show parsePid "self" = none from by decide] at hpid
      cases hpid
    · obtain rfl := Option.some.inj hname
      rw [show parsePid "4242" = some 4242 from by decide] at hpid
      rw [← Option.some.inj hpid]
      decide
    · obtain rfl := Option.some.inj hname
      rw [show parsePid "17" = some 17 from by decide] at hpid
      rw [← Option.some.inj hpid]
      decide

theorem idleScan_busy :
    IdleScan { Bench.platform Bench.singleGpu with proc := busyProc }
      ((Bench.platform Bench.singleGpu).sysfs Bench.dirty) :=
  idleScan_exact _ _ busyProc_procfs

end Main

end KataDeviceProvisioner.Ports
