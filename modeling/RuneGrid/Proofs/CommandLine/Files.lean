import Mathlib.Tactic.Common
import RuneGrid.CommandLine.Command
import RuneGrid.CommandLine.Machine

/-!
# What a command does to files

A file that has been written can be read back (`Machine.NamesFile.exists_write`), and it does not
change where paths lead.

Whether a report can be written does not depend on what is in it, on what is in other files or on
what has been put out.  Machines that differ in nothing else have the same tree
(`Machine.SameTree`), and an action is discreet (`Machine.Discreet`) if it answers the same on
machines with the same tree, leaves the same tree, and puts nothing out.  To create a directory is
discreet, `>>=` keeps it, and so it holds of what comes before a report is written
(`Machine.discreet_prepare`).  `Machine.CanWrite.writeReport` is what callers use.
-/

namespace RuneGrid

namespace CommandLine

/-- The entry without what is in it. -/
def Entry.hollow : Entry → Entry
  | file _ => file .empty
  | e => e

/-! ### File operations -/

theorem run_orFailure {m : Type → Type} [Monad m] [LawfulMonad m] {α : Type} (doing : String)
    (act : m (Except FileError α)) : (orFailure doing act).run = (do
      match ← act with
      | .ok a => pure (.ok a)
      | .error e => pure (.error ⟨doing, e.message⟩)) := by
  show (ExceptT.lift act >>= _).run = _
  rw [ExceptT.run_bind_lift]
  refine bind_congr fun answer => ?_
  cases answer <;> rfl

namespace Machine

variable {k k' : Machine} {place q start : Place} {name path text : String} {bytes : ByteArray}

/-! ### The file operations, case by case -/

/-- What there is at a place, whatever is in it. -/
def kind? (k : Machine) (place : Place) : Option Entry :=
  Option.map Entry.hollow <| k.entry? place

theorem enter_eq (k : Machine) (place : Place) (name : String) : k.enter place name =
    match k.kind? place with
    | none => .error .notFound
    | some .directory =>
      if nameLimit < name.utf8ByteSize then .error .nameTooLong
      else .ok (if name = "." then place else if name = ".." then place.dropLast
        else place ++ [name])
    | some _ => .error .notADirectory := by
  unfold enter kind?
  rcases k.entry? place with _ | _ | _ | _ | _ <;> rfl

theorem makeDirectory_eq (k : Machine) (path : String) : k.makeDirectory path =
    match k.locate path with
    | .error e => .error e
    | .ok place =>
      if (k.kind? place).isSome then .error .alreadyExists else .ok (k.put place .directory) := by
  unfold makeDirectory kind?
  cases k.locate path with
  | error e => rfl
  | ok place =>
    dsimp only [bind, Except.bind]
    cases k.entry? place <;> rfl

theorem isDirectory_eq (k : Machine) (path : String) : k.isDirectory path =
    match k.locate path with
    | .error _ => false
    | .ok place =>
      match k.kind? place with
      | some .directory => true
      | _ => false := by
  unfold isDirectory kind?
  cases k.locate path with
  | error e => rfl
  | ok place =>
    dsimp only
    rcases k.entry? place with _ | _ | _ | _ | _ <;> rfl

theorem read_of_locate (h : k.locate path = .ok place)
    (hfile : k.entry? place = some (.file bytes)) (hinsists : ¬ insists path = true) :
    k.read path = .ok bytes := by
  unfold read
  rw [h]
  dsimp only [bind, Except.bind]
  rw [hfile]
  dsimp only
  rw [if_neg hinsists]
  rfl

theorem lookup_put (k : Machine) (place q : Place) (e : Entry) : entry? (k.put place e) q =
    if q = [] then some .directory else if q = place then some e else k.entry? q := by
  unfold entry? put
  by_cases hq : q = []
  · simp [hq]
  · by_cases hplace : q = place
    · simp [hplace]
    · have hbeq : (q == place) = false := by
        simpa using hplace
      rw [if_neg hq, if_neg hq, if_neg hplace, if_neg hq, List.lookup_cons, hbeq]

/-! ### Reading what has been written -/

/-- A way leads through directories, and a new file is none of them. -/
theorem enter_put (hp : ¬ k.kind? place = some .directory) (h : k.enter start name = .ok q) :
    (k.put place (.file bytes)).enter start name = .ok q := by
  rw [enter_eq] at h
  have hdirectory : k.kind? start = some .directory := by
    rcases hk : k.kind? start with _ | _ | _ | _ | _ <;> rw [hk] at h <;> cases h
  have hne : start ≠ place := by
    rintro rfl
    exact hp hdirectory
  have hsame : (k.put place (.file bytes)).kind? start = k.kind? start := by
    unfold kind?
    rw [lookup_put, if_neg hne]
    by_cases hroot : start = []
    · rw [if_pos hroot, hroot]
      rfl
    · rw [if_neg hroot]
  rw [enter_eq, hsame]
  exact h

theorem foldlM_enter_put (hp : ¬ k.kind? place = some .directory) {names : List String}
    (h : names.foldlM k.enter start = .ok q) :
    names.foldlM (k.put place (.file bytes)).enter start = .ok q := by
  induction names generalizing start with
  | nil => exact h
  | cons name names ih =>
    rw [List.foldlM_cons] at h ⊢
    cases hname : k.enter start name with
    | error e =>
      rw [hname] at h
      cases h
    | ok next =>
      rw [hname] at h
      rw [enter_put hp hname]
      exact ih h

/-- A new file does not change where a path leads. -/
theorem locate_put (hp : ¬ k.kind? place = some .directory) (h : k.locate path = .ok q) :
    (k.put place (.file bytes)).locate path = .ok q := by
  unfold locate at h ⊢
  by_cases hlong : pathLimit < path.utf8ByteSize
  · rw [if_pos hlong] at h
    cases h
  · rw [if_neg hlong] at h ⊢
    exact foldlM_enter_put hp h

/-- The path leads to a regular file, or to where one can be created: there is neither a directory
nor one of the outputs. -/
def NamesFile (k : Machine) (path : String) : Prop :=
  ∃ place, k.locate path = .ok place ∧ ¬ insists path = true ∧
    (k.kind? place = none ∨ k.kind? place = some (.file .empty))

/-- **A file that has been written can be read back**, and nothing is put out. -/
theorem NamesFile.exists_write (h : k.NamesFile path) (text : String) :
    ∃ next, k.write path text = .ok next ∧ next.output = k.output ∧
      next.complaints = k.complaints ∧ next.read path = .ok text.toUTF8 := by
  obtain ⟨place, hplace, hinsists, hkind⟩ := h
  have hfree : ¬ k.kind? place = some .directory := by
    rcases hkind with hkind | hkind <;> rw [hkind] <;> nofun
  have hroot : place ≠ [] := by
    rintro rfl
    exact hfree rfl
  refine ⟨k.put place (.file text.toUTF8), ?_, rfl, rfl, ?_⟩
  · unfold write
    rw [hplace, Bool.eq_false_iff.2 hinsists]
    unfold kind? at hkind
    dsimp only [bind, Except.bind]
    rcases hk : k.entry? place with _ | _ | _ | _ | _ <;> rw [hk] at hkind
    case none => rfl
    case some.file => rfl
    all_goals rcases hkind with hkind | hkind <;> cases hkind
  · apply read_of_locate (locate_put hfree hplace) _ hinsists
    rw [lookup_put, if_neg hroot, if_pos rfl]

/-! ### Machines with the same tree -/

/-- Nothing tells the machines apart but what their files hold and what has been put out. -/
structure SameTree (k k' : Machine) : Prop where
  here : k.here = k'.here
  kind : ∀ place, k.kind? place = k'.kind? place

namespace SameTree

theorem refl (k : Machine) : SameTree k k :=
  ⟨rfl, fun _ => rfl⟩

theorem locate_eq (h : SameTree k k') (path : String) : k.locate path = k'.locate path := by
  have henter : k.enter = k'.enter := by
    funext place name
    rw [enter_eq, enter_eq, h.kind]
  unfold locate
  rw [henter, h.here]

theorem put (h : SameTree k k') (place : Place) (e : Entry) :
    SameTree (k.put place e) (k'.put place e) := by
  refine ⟨h.here, fun q => ?_⟩
  unfold kind?
  rw [lookup_put, lookup_put]
  by_cases hroot : q = []
  · rw [if_pos hroot, if_pos hroot]
  · rw [if_neg hroot, if_neg hroot]
    by_cases hq : q = place
    · rw [if_pos hq, if_pos hq]
    · rw [if_neg hq, if_neg hq]
      exact h.kind q

theorem namesFile (h : SameTree k k') (hfile : k.NamesFile path) : k'.NamesFile path := by
  unfold NamesFile at hfile ⊢
  rw [← h.locate_eq]
  simp only [← h.kind]
  exact hfile

end SameTree

/-! ### Discreet actions -/

/-- What an action answers, and the machine after it. -/
def after {α : Type} (k : Machine) (act : StateM Machine α) : α × Machine :=
  Id.run (act.run k)

theorem after_bind {α β : Type} (k : Machine) (act : StateM Machine α)
    (next : α → StateM Machine β) :
    k.after (act >>= next) = (k.after act).2.after (next (k.after act).1) := rfl

/-- The action answers the same on machines with the same tree, and leaves the same tree and what
has been put out. -/
structure Discreet {α : Type} (act : StateM Machine α) : Prop where
  answers : ∀ k k' : Machine, SameTree k k' → (k.after act).1 = (k'.after act).1
  trees : ∀ k k' : Machine, SameTree k k' → SameTree (k.after act).2 (k'.after act).2
  output : ∀ k : Machine, (k.after act).2.output = k.output
  complaints : ∀ k : Machine, (k.after act).2.complaints = k.complaints

namespace Discreet

variable {α β : Type} {act : StateM Machine α} {next : α → StateM Machine β}

theorem pure (a : α) : Discreet (Pure.pure a) :=
  ⟨fun _ _ _ => rfl, fun _ _ h => h, fun _ => rfl, fun _ => rfl⟩

theorem bind (h : Discreet act) (hnext : ∀ a, Discreet (next a)) : Discreet (act >>= next) where
  answers k k' hk := by
    rw [after_bind, after_bind, h.answers k k' hk]
    exact (hnext _).answers _ _ (h.trees k k' hk)
  trees k k' hk := by
    rw [after_bind, after_bind, h.answers k k' hk]
    exact (hnext _).trees _ _ (h.trees k k' hk)
  output k := ((hnext _).output _).trans (h.output k)
  complaints k := ((hnext _).complaints _).trans (h.complaints k)

end Discreet

theorem after_become (change : Machine → Except FileError Machine) (k : Machine) :
    k.after (become change) = match change k with
      | .ok next => (.ok (), next)
      | .error e => (.error e, k) := by
  show Id.run ((become change).run k) = _
  unfold become
  rw [StateT.run_bind, StateT.run_get, pure_bind]
  cases change k <;> rfl

/-! ### Writing a report -/

theorem after_makeDirectory (k : Machine) (path : String) :
    k.after (Host.makeDirectory path) =
      match k.locate path with
      | .error e => (.error e, k)
      | .ok place =>
        if (k.kind? place).isSome then (.error .alreadyExists, k)
        else (.ok (), k.put place .directory) := by
  refine (after_become (·.makeDirectory path) k).trans ?_
  rw [makeDirectory_eq]
  cases k.locate path with
  | error e => rfl
  | ok place =>
    by_cases hsome : (k.kind? place).isSome
    · simp only [if_pos hsome]
    · simp only [if_neg hsome]

theorem discreet_makeDirectory (path : String) : Discreet (Host.makeDirectory path) where
  answers k k' hk := by
    rw [after_makeDirectory, after_makeDirectory, hk.locate_eq]
    cases k'.locate path with
    | error e => rfl
    | ok place =>
      dsimp only
      rw [hk.kind]
      split <;> rfl
  trees k k' hk := by
    rw [after_makeDirectory, after_makeDirectory, hk.locate_eq]
    cases k'.locate path with
    | error e => exact hk
    | ok place =>
      dsimp only
      rw [hk.kind]
      split
      · exact hk
      · exact hk.put place .directory
  output k := by
    rw [after_makeDirectory]
    split
    · rfl
    · split <;> rfl
  complaints k := by
    rw [after_makeDirectory]
    split
    · rfl
    · split <;> rfl

theorem discreet_isDirectory (path : String) : Discreet (Host.isDirectory path) where
  answers k k' hk := by
    show k.isDirectory path = k'.isDirectory path
    rw [isDirectory_eq, isDirectory_eq, hk.locate_eq]
    cases k'.locate path with
    | error e => rfl
    | ok place =>
      dsimp only
      rw [hk.kind]
  trees _ _ hk := hk
  output _ := rfl
  complaints _ := rfl

theorem discreet_orExisting (path : Path) (e : FileError) :
    Discreet (makeDirectoriesAt.orExisting path e) := by
  refine (discreet_isDirectory path.text).bind fun there => ?_
  cases there with
  | false => exact .pure _
  | true => exact .pure _

theorem discreet_makeDirectoriesAt (paths : List Path) : Discreet (makeDirectoriesAt paths) := by
  induction paths with
  | nil => exact .pure _
  | cons path above ih =>
    unfold makeDirectoriesAt
    by_cases hhere : path.text = ""
    · rw [if_pos hhere]
      exact .pure _
    · rw [if_neg hhere]
      refine (discreet_makeDirectory path.text).bind fun made => ?_
      cases made with
      | ok _ => exact .pure _
      | error e =>
        cases e with
        | notFound =>
          -- first those above it, then once more
          refine ih.bind fun made => ?_
          cases made with
          | error e => exact .pure _
          | ok _ =>
            refine (discreet_makeDirectory path.text).bind fun made => ?_
            cases made with
            | ok _ => exact .pure _
            | error e => exact discreet_orExisting path e
        | _ => exact discreet_orExisting path _

theorem discreet_orFailure {α : Type} {act : StateM Machine (Except FileError α)}
    (doing : String) (h : Discreet act) : Discreet (orFailure doing act).run := by
  rw [run_orFailure]
  refine h.bind fun answer => ?_
  cases answer with
  | ok a => exact .pure _
  | error e => exact .pure _

/-- **To create the directory for a report is discreet.** -/
theorem discreet_prepare (path : String) : Discreet (prepare path).run := by
  unfold prepare
  cases (Path.ofString path).parent? with
  | none => exact .pure _
  | some parent =>
    dsimp only
    by_cases hhere : parent.text ≠ ""
    · rw [if_pos hhere]
      exact discreet_orFailure _ (discreet_makeDirectoriesAt parent.ancestors)
    · rw [if_neg hhere]
      exact .pure _

theorem after_orFailure_writeFile (k : Machine) (doing path text : String) :
    k.after (orFailure doing (Host.writeFile path text)).run = match k.write path text with
      | .ok next => (.ok (), next)
      | .error e => (.error ⟨doing, e.message⟩, k) := by
  have hwrite : k.after (Host.writeFile path text) = _ := after_become (·.write path text) k
  rw [run_orFailure, after_bind, hwrite]
  cases k.write path text <;> rfl

/-- A report can be written to this path: the directory for it is there or can be created, and then
the path names a regular file, or none yet. -/
def CanWrite (k : Machine) (path : String) : Prop :=
  ∃ k', k.after (prepare path).run = (.ok (), k') ∧ k'.NamesFile path

/-- **A report is written where one can be written**, also on a machine that has the same tree,
whatever is in it, and nothing is put out. -/
theorem CanWrite.writeReport {t : Toolkit} {report : Report} (h : k.CanWrite path)
    (hk : SameTree k k') (htext : report.encode t.encode = .ok text) :
    ∃ next, k'.after (t.writeReport path report).run = (.ok (), next) ∧ next.output = k'.output ∧
      next.complaints = k'.complaints ∧ next.read path = .ok text.toUTF8 := by
  obtain ⟨ready, hready, hfile⟩ := h
  have hdiscreet := discreet_prepare path
  have hanswer : (k'.after (prepare path).run).1 = .ok () := by
    rw [← hdiscreet.answers k k' hk, hready]
  have htrees : SameTree ready (k'.after (prepare path).run).2 := by
    have h := hdiscreet.trees k k' hk
    rw [hready] at h
    exact h
  obtain ⟨next, hwrite, houtput, hcomplaints, hread⟩ := (htrees.namesFile hfile).exists_write text
  refine ⟨next, ?_, houtput.trans (hdiscreet.output k'),
    hcomplaints.trans (hdiscreet.complaints k'), hread⟩
  unfold Toolkit.writeReport
  rw [htext]
  dsimp only
  rw [ExceptT.run_bind, after_bind, hanswer]
  dsimp only
  rw [after_orFailure_writeFile, hwrite]

end Machine

end CommandLine

end RuneGrid
