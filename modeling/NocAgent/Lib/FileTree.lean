import NocAgent.Lib.Action
import Mathlib.Data.List.Basic
import Mathlib.Logic.Function.Basic

/-!
# Trees of files

A tree has a directory or a file at each location; a path is a list of names, where `..` goes up.
Nothing is ever deleted.

* `walk` — following a path through directories; `makeDirs` — making what is missing on the way.
* `write`, `read` — a file under a path, with the directories above it.
* `resolve` — the location that a path leads to if it leads anywhere.
* `read_write_self`, `read_write_same`, `read_write_other` — a write is read under every path to its
  location, and under no other.
-/

set_option autoImplicit false

namespace Storage

open Effects

universe u

/-- What is at a location. -/
inductive Node (α : Type u) where
  | dir
  | file (content : α)

/-- The names from the root. -/
abbrev Location := List String

abbrev FileTree (α : Type u) := Location → Option (Node α)

inductive Refusal where
  | notADirectory
  | isADirectory
  deriving DecidableEq

namespace FileTree

/-- The location that a name leads to. -/
def enter (cur : Location) (name : String) : Location :=
  if name = ".." then cur.dropLast else cur ++ [name]

def resolve (path : List String) : Location := path.foldl enter []

variable {α : Type}

def isDirAt (tree : FileTree α) (loc : Location) : Bool :=
  match tree loc with
  | some .dir => true
  | _ => false

/-- Follow a path through directories. -/
def walk (tree : FileTree α) : Location → List String → Option Location
  | cur, [] => some cur
  | cur, name :: rest =>
    if tree.isDirAt (enter cur name) then walk tree (enter cur name) rest else none

/-- The path leads to a directory. -/
def isDir (tree : FileTree α) (path : List String) : Bool := (tree.walk [] path).isSome

/-- Follow a path, and make the directories that are missing. -/
def makeDirs : Location → List String → Action (FileTree α) Refusal Location
  | cur, [], tree => (.ok cur, tree)
  | cur, name :: rest, tree =>
    match tree (enter cur name) with
    | some .dir => makeDirs (enter cur name) rest tree
    | some (.file _) => (.error .notADirectory, tree)
    | none => makeDirs (enter cur name) rest (Function.update tree (enter cur name) (some .dir))

/-- Put a file in a directory. -/
def put (cur : Location) (name : String) (a : α) : Action (FileTree α) Refusal Unit := fun tree =>
  if tree.isDirAt (enter cur name) then (.error .isADirectory, tree)
  else (.ok (), Function.update tree (enter cur name) (some (.file a)))

/-- Write a file, and make the directories above it.  It fails only where the tree refuses it, and
then no file has changed. -/
def write (path : List String) (a : α) : Action (FileTree α) Refusal Unit :=
  match path.getLast? with
  | none => Action.raise .isADirectory
  | some name => do
    let cur ← makeDirs [] path.dropLast
    put cur name a

def contentAt (tree : FileTree α) (loc : Location) : Option α :=
  match tree loc with
  | some (.file a) => some a
  | _ => none

def read (tree : FileTree α) (path : List String) : Option α :=
  match path.getLast? with
  | none => none
  | some name =>
    match tree.walk [] path.dropLast with
    | none => none
    | some cur => tree.contentAt (enter cur name)

/-! ## Paths -/

section Paths

variable {tree tree' : FileTree α} {cur loc : Location} {path path' : List String} {a b : α}

theorem isDirAt_iff : tree.isDirAt loc = true ↔ tree loc = some .dir := by
  unfold isDirAt
  split
  · rename_i h
    simp [h]
  · rename_i h
    simpa using h

theorem walk_eq : ∀ {path : List String} {cur : Location}, tree.walk cur path = some loc →
    loc = path.foldl enter cur
  | [], cur, h => by
    cases h
    rfl
  | name :: rest, cur, h => by
    unfold walk at h
    split at h
    · have hrest := walk_eq h
      exact hrest
    · cases h

/-- The directories of one tree are directories of the other. -/
def KeepsDirs (tree tree' : FileTree α) : Prop :=
  ∀ loc, tree loc = some .dir → tree' loc = some .dir

/-- A path through directories stays one. -/
theorem walk_mono (h : KeepsDirs tree tree') : ∀ {path : List String} {cur : Location},
    tree.walk cur path = some loc → tree'.walk cur path = some loc
  | [], cur, hwalk => hwalk
  | name :: rest, cur, hwalk => by
    unfold walk at hwalk ⊢
    split at hwalk
    · rename_i hdir
      rw [if_pos (isDirAt_iff.2 (h _ (isDirAt_iff.1 hdir)))]
      exact walk_mono h hwalk
    · cases hwalk

theorem isDir_mono (h : KeepsDirs tree tree') (hdir : tree.isDir path = true) :
    tree'.isDir path = true := by
  obtain ⟨loc, hloc⟩ := Option.isSome_iff_exists.1 hdir
  exact Option.isSome_iff_exists.2 ⟨loc, walk_mono h hloc⟩

/-- Whatever is in one tree is in the other. -/
def Extends (tree tree' : FileTree α) : Prop :=
  ∀ loc node, tree loc = some node → tree' loc = some node

theorem Extends.keepsDirs (h : Extends tree tree') : KeepsDirs tree tree' :=
  fun loc hloc => h loc _ hloc

theorem extends_makeDir (h : tree loc = none) :
    Extends tree (Function.update tree loc (some .dir)) := by
  intro other node hnode
  have hne : other ≠ loc := by
    rintro rfl
    rw [h] at hnode
    cases hnode
  rw [Function.update_of_ne hne]
  exact hnode

/-- **Making directories adds directories, and the path then leads through them.** -/
theorem makeDirs_spec : ∀ (path : List String) (cur : Location) (tree : FileTree α),
    Extends tree (makeDirs cur path tree).2 ∧
      ∀ loc, (makeDirs cur path tree).1 = .ok loc → (makeDirs cur path tree).2.walk cur path = some loc
  | [], cur, tree => by
    refine ⟨fun _ _ h => h, fun loc h => ?_⟩
    cases h
    rfl
  | name :: rest, cur, tree => by
    unfold makeDirs
    cases hnode : tree (enter cur name) with
    | none =>
      obtain ⟨hext, hwalk⟩ := makeDirs_spec rest (enter cur name)
        (Function.update tree (enter cur name) (some .dir))
      refine ⟨fun loc node h => hext _ _ (extends_makeDir hnode loc node h), fun loc h => ?_⟩
      have hdir := hext (enter cur name) .dir (Function.update_self _ _ _)
      unfold walk
      rw [if_pos (isDirAt_iff.2 hdir)]
      exact hwalk loc h
    | some node =>
      cases node with
      | file content =>
        refine ⟨fun _ _ h => h, fun loc h => ?_⟩
        cases h
      | dir =>
        obtain ⟨hext, hwalk⟩ := makeDirs_spec rest (enter cur name) tree
        refine ⟨hext, fun loc h => ?_⟩
        unfold walk
        rw [if_pos (isDirAt_iff.2 (hext _ _ hnode))]
        exact hwalk loc h

theorem resolve_eq {name : String} (h : path.getLast? = some name) :
    resolve path = enter (resolve path.dropLast) name := by
  obtain ⟨front, rfl⟩ := List.getLast?_eq_some_iff.1 h
  unfold resolve
  rw [List.foldl_append, List.dropLast_concat]
  rfl

/-- What a read finds is at the location of its path. -/
theorem read_some_iff : tree.read path = some b ↔ path ≠ [] ∧
    (∃ loc, tree.walk [] path.dropLast = some loc) ∧ tree.contentAt (resolve path) = some b := by
  unfold read
  cases hlast : path.getLast? with
  | none =>
    rw [List.getLast?_eq_none_iff] at hlast
    simp [hlast]
  | some name =>
    have hne : path ≠ [] := by
      rintro rfl
      cases hlast
    cases hwalk : tree.walk [] path.dropLast with
    | none => simp
    | some loc =>
      have hloc : loc = resolve path.dropLast := walk_eq hwalk
      simp [hne, resolve_eq hlast, hloc]

end Paths

/-! ## Writing -/

section Writing

variable {tree tree' : FileTree α} {path path' : List String} {a b : α}

/-- A write that is carried out: the directories above are there, the file is put at its location,
and nothing else changes. -/
theorem write_ok (h : write path a tree = (.ok (), tree')) : path ≠ [] ∧ ∃ made, Extends tree made ∧
    (∃ loc, made.walk [] path.dropLast = some loc) ∧ made (resolve path) ≠ some .dir ∧
    tree' = Function.update made (resolve path) (some (.file a)) := by
  unfold write at h
  cases hlast : path.getLast? with
  | none =>
    rw [hlast] at h
    cases h
  | some name =>
    have hne : path ≠ [] := by
      rintro rfl
      cases hlast
    rw [hlast] at h
    obtain ⟨hext, hwalk⟩ := makeDirs_spec path.dropLast [] tree
    cases hmake : makeDirs [] path.dropLast tree with
    | mk result made =>
      rw [hmake] at hext hwalk
      cases result with
      | error e =>
        simp only [Action.bind_error hmake] at h
        cases h
      | ok cur =>
        have hcur := hwalk cur rfl
        have hloc : enter cur name = resolve path := by
          rw [resolve_eq hlast]
          exact congrArg (enter · name) (walk_eq hcur)
        simp only [Action.bind_ok hmake] at h
        unfold put at h
        rw [hloc] at h
        split at h
        · cases h
        · rename_i hdir
          cases h
          exact ⟨hne, made, hext, ⟨cur, hcur⟩, fun hd => hdir (isDirAt_iff.2 hd), rfl⟩

/-- A write that is refused adds directories at most. -/
theorem write_error {e : Refusal} (h : write path a tree = (.error e, tree')) :
    Extends tree tree' := by
  unfold write at h
  cases hlast : path.getLast? with
  | none =>
    rw [hlast] at h
    cases h
    exact fun _ _ hnode => hnode
  | some name =>
    rw [hlast] at h
    obtain ⟨hext, -⟩ := makeDirs_spec path.dropLast [] tree
    cases hmake : makeDirs [] path.dropLast tree with
    | mk result made =>
      rw [hmake] at hext
      cases result with
      | error e' =>
        simp only [Action.bind_error hmake] at h
        cases h
        exact hext
      | ok cur =>
        simp only [Action.bind_ok hmake] at h
        unfold put at h
        split at h
        · cases h
          exact hext
        · cases h

theorem contentAt_extends (h : Extends tree tree') {loc : Location}
    (hcontent : tree.contentAt loc = some b) : tree'.contentAt loc = some b := by
  unfold contentAt at hcontent ⊢
  split at hcontent
  · rename_i content hnode
    rw [h loc _ hnode]
    exact hcontent
  · cases hcontent

theorem read_extends (h : Extends tree tree') (hread : tree.read path = some b) :
    tree'.read path = some b := by
  obtain ⟨hne, ⟨loc, hwalk⟩, hcontent⟩ := read_some_iff.1 hread
  exact read_some_iff.2 ⟨hne, ⟨loc, walk_mono h.keepsDirs hwalk⟩, contentAt_extends h hcontent⟩

/-- A write keeps directories. -/
theorem write_keepsDirs (h : write path a tree = (.ok (), tree')) : KeepsDirs tree tree' := by
  obtain ⟨-, made, hext, -, hdir, rfl⟩ := write_ok h
  intro loc hloc
  have hmade := hext loc _ hloc
  have hne : loc ≠ resolve path := fun heq => hdir (heq ▸ hmade)
  rw [Function.update_of_ne hne]
  exact hmade

/-- **What is written is read back.** -/
theorem read_write_self (h : write path a tree = (.ok (), tree')) : tree'.read path = some a := by
  obtain ⟨hne, made, -, ⟨loc, hwalk⟩, hdir, rfl⟩ := write_ok h
  refine read_some_iff.2 ⟨hne, ⟨loc, walk_mono ?_ hwalk⟩, ?_⟩
  · intro other hother
    have hother' : other ≠ resolve path := fun heq => hdir (heq ▸ hother)
    rw [Function.update_of_ne hother']
    exact hother
  · unfold contentAt
    rw [Function.update_self]

/-- Another path to the location of a write reads what was written. -/
theorem read_write_same (h : write path a tree = (.ok (), tree')) (hread : tree.read path' = some b)
    (heq : resolve path' = resolve path) : tree'.read path' = some a := by
  obtain ⟨hne, ⟨loc, hwalk⟩, -⟩ := read_some_iff.1 hread
  obtain ⟨-, -, hcontent⟩ := read_some_iff.1 (read_write_self h)
  exact read_some_iff.2 ⟨hne, ⟨loc, walk_mono (write_keepsDirs h) hwalk⟩, heq ▸ hcontent⟩

/-- **A write to another location leaves a file.** -/
theorem read_write_other (h : write path a tree = (.ok (), tree'))
    (hread : tree.read path' = some b) (hne : resolve path' ≠ resolve path) :
    tree'.read path' = some b := by
  obtain ⟨hpath, ⟨loc, hwalk⟩, hcontent⟩ := read_some_iff.1 hread
  refine read_some_iff.2 ⟨hpath, ⟨loc, walk_mono (write_keepsDirs h) hwalk⟩, ?_⟩
  obtain ⟨-, made, hext, -, -, rfl⟩ := write_ok h
  have hmade := contentAt_extends hext hcontent
  unfold contentAt at hmade ⊢
  rw [Function.update_of_ne hne]
  exact hmade

end Writing

end FileTree

end Storage
