import CodeAssistant.Command.FileSystem

namespace CodeAssistant

/-!
# What is written and read

A file that has been written successfully is read back under the same path.  The reason is that the
new file stands where no directory was, so every directory on the way to it is still one: the way is
the same before and after.

A path that is one name has no way to speak of.  No directory is made for it, and the only place at
which anything changes is the one with that name where relative paths start.
-/

namespace FileSystem

variable {files after : FileSystem} {place target : Place} {path : Path} {contents : ByteArray}

/-- A file with the given contents can be written. -/
def IsWritable (files : FileSystem) (path : Path) : Prop :=
  ∀ contents, (files.write path contents).2 = .ok ()

/-! ## Places -/

theorem node?_put_self (node : Node) (below : place ≠ []) :
    (files.put place node).node? place = some node := by
  cases place with
  | nil => exact absurd rfl below
  | cons name rest => exact List.lookup_cons_self

theorem node?_put_of_ne (node : Node) (other : place ≠ target) :
    (files.put target node).node? place = files.node? place := by
  cases place with
  | nil => rfl
  | cons name rest =>
    dsimp only [node?, put]
    rw [List.lookup_cons, beq_eq_false_iff_ne.mpr other]

/-- What stands where, after something was put at one place. -/
theorem node?_put (node : Node) (below : target ≠ []) :
    (files.put target node).node? place =
      if place = target then some node else files.node? place := by
  by_cases here : place = target
  · rw [if_pos here, here, node?_put_self node below]
  · rw [if_neg here, node?_put_of_ne node here]

/-- A place that is no directory is not the root. -/
theorem ne_nil_of_node?_ne (free : files.node? place ≠ some .directory) : place ≠ [] := by
  rintro rfl
  exact free rfl

/-- A way is still the same after something was put where no directory had been. -/
theorem follow_put (free : files.node? target ≠ some .directory) (node : Node)
    {steps : List Path.Step} {destination : Place}
    (way : files.follow place steps = .ok destination) :
    (files.put target node).follow place steps = .ok destination := by
  induction steps generalizing place with
  | nil => exact way
  | cons step rest ih =>
    rw [follow] at way ⊢
    have elsewhere (directory : files.node? place = some .directory) : place ≠ target := by
      rintro rfl
      exact free directory
    cases found : files.node? place with
    | none =>
      rw [found] at way
      cases way
    | some there =>
      cases there with
      | file contents =>
        rw [found] at way
        cases way
      | directory =>
        rw [found] at way
        rw [node?_put_of_ne node (elsewhere found), found]
        dsimp only at way ⊢
        cases entered : enter place step with
        | error fault =>
          rw [entered] at way
          cases way
        | ok next =>
          rw [entered] at way
          exact ih way

/-! ## Files -/

/-- A file that is made is put at the end of the way, where no directory is. -/
theorem makeFile_eq_ok (made : files.makeFile path contents = (after, .ok ())) :
    fault? path = none ∧ ∃ place, files.follow (files.start path) path.steps = .ok place ∧
      files.node? place ≠ some .directory ∧ after = files.put place (.file contents) := by
  rw [makeFile] at made
  cases faulty : fault? path with
  | some fault =>
    rw [faulty] at made
    cases made
  | none =>
    rw [faulty] at made
    refine ⟨rfl, ?_⟩
    by_cases slash : path.endsInSlash = true
    · dsimp only at made
      rw [if_pos slash] at made
      cases followed : files.follow (files.start path) path.components.dropLast <;>
        rw [followed] at made <;> cases made
    · dsimp only at made
      rw [if_neg slash] at made
      cases followed : files.follow (files.start path) path.steps with
      | error fault =>
        rw [followed] at made
        cases made
      | ok place =>
        rw [followed] at made
        dsimp only at made
        refine ⟨place, rfl, ?_⟩
        cases found : files.node? place with
        | none =>
          rw [found] at made
          cases made
          exact ⟨(Option.some_ne_none _).symm, rfl⟩
        | some there =>
          rw [found] at made
          cases there with
          | directory => cases made
          | file earlier =>
            cases made
            refine ⟨?_, rfl⟩
            rintro ⟨⟩

/-- A file that is written is made once its directory is there. -/
theorem write_eq_ok (written : files.write path contents = (after, .ok ())) :
    ∃ ready, files.makeDirectories (files.start path) path.components.reverse.tail =
        (ready, .ok ()) ∧
      ready.makeFile path contents = (after, .ok ()) := by
  rw [write] at written
  by_cases nul : path.components.reverse.tail.any holdsNul = true
  · rw [if_pos nul] at written
    cases written
  · rw [if_neg nul] at written
    cases made : files.makeDirectories (files.start path) path.components.reverse.tail with
    | mk ready result =>
      rw [made] at written
      cases result with
      | error fault => cases written
      | ok done => exact ⟨ready, rfl, written⟩

/-- What has been written is what is read. -/
theorem read_of_written (written : files.write path contents = (after, .ok ())) :
    after.read path = .ok contents := by
  rcases write_eq_ok written with ⟨ready, -, made⟩
  rcases makeFile_eq_ok made with ⟨plain, place, way, free, rfl⟩
  have sameStart : (ready.put place (.file contents)).start path = ready.start path := rfl
  rw [read, plain, sameStart]
  dsimp only
  rw [follow_put free _ way]
  dsimp only [Except.bind]
  rw [node?_put_self _ (ne_nil_of_node?_ne free)]

/-! ## One name -/

/-- A file whose path is one name is put where relative paths start, and nothing else is changed. -/
theorem write_name {name : String} (relative : path.isAbsolute = false)
    (single : path.steps = [.name name]) (written : files.write path contents = (after, .ok ())) :
    after = files.put (files.current ++ [name]) (.file contents) := by
  rcases write_eq_ok written with ⟨ready, directories, made⟩
  have components : path.components = [.name name] := by
    rw [Path.components, single]
    rfl
  have unchanged : ready = files := by
    rw [components] at directories
    exact (Prod.ext_iff.mp directories).1.symm
  subst unchanged
  rcases makeFile_eq_ok made with ⟨-, place, way, -, result⟩
  have start : ready.start path = ready.current := by
    rw [FileSystem.start, relative]
    rfl
  rw [start, single] at way
  have arrived : place = ready.current ++ [name] := by
    rw [follow] at way
    cases found : ready.node? ready.current with
    | none =>
      rw [found] at way
      cases way
    | some there =>
      rw [found] at way
      cases there with
      | file earlier => cases way
      | directory =>
        dsimp only [enter] at way
        by_cases long : maxNameBytes < name.utf8ByteSize
        · rw [if_pos long] at way
          cases way
        · rw [if_neg long] at way
          exact (Except.ok.inj way).symm
  rw [result, arrived]

end FileSystem

end CodeAssistant
