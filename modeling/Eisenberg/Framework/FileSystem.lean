import Eisenberg.Framework.Dict
import Mathlib.Data.List.Infix

/-!
# A file system

The directories and the files under one root, by their paths from it. An operation gives nothing
where the system would report that its path, or the directory of its path, is not as it needs it;
no other error is modelled.
-/

namespace Framework

abbrev Path := List String

structure File (β τ : Type) where
  content : β
  mtime : τ
  deriving DecidableEq

structure FileSystem (β τ : Type) where
  dirs : List Path
  files : Dict Path (File β τ)
  rooted : ∀ path file, files.get? path = some file → path ≠ [] ∧ path.dropLast ∈ dirs

namespace FileSystem

variable {β τ : Type} (fs : FileSystem β τ)

def empty : FileSystem β τ := ⟨[], Dict.empty, by rintro path file ⟨⟩⟩

def IsDir (path : Path) : Prop := path ∈ fs.dirs

instance (path : Path) : Decidable (fs.IsDir path) := inferInstanceAs (Decidable (path ∈ fs.dirs))

/-- What a directory holds. -/
def listDir (dir : Path) : List Path :=
  (fs.dirs ++ fs.files.keys).filter fun path => path ≠ [] ∧ path.dropLast = dir

theorem mem_listDir {path : Path} {file : File β τ} (h : fs.files.get? path = some file) :
    path ∈ fs.listDir path.dropLast := by
  have hkey : path ∈ fs.files.keys := Dict.mem_keys h
  simp [listDir, hkey, (fs.rooted path file h).1]

/-- Make a directory with its parents; one that is there is no error. -/
def mkdir (dir : Path) : FileSystem β τ where
  dirs := fs.dirs ++ dir.inits.filter (· ∉ fs.dirs)
  files := fs.files
  rooted := by
    intro path file hfile
    obtain ⟨hroot, hdir⟩ := fs.rooted path file hfile
    exact ⟨hroot, List.mem_append_left _ hdir⟩

/-- Write a file, over one that is there. -/
def write? (path : Path) (content : β) (time : τ) : Option (FileSystem β τ) :=
  if h : path ≠ [] ∧ path.dropLast ∈ fs.dirs then
    some ⟨fs.dirs, fs.files.set path ⟨content, time⟩, by
      intro other file hfile
      rw [Dict.get?_set] at hfile
      split_ifs at hfile with hother
      · rw [hother]
        exact h
      · exact fs.rooted other file hfile⟩
  else none

def mtime? (path : Path) : Option τ := (fs.files.get? path).map File.mtime

def read? (path : Path) : Option β := (fs.files.get? path).map File.content

def unlink? (path : Path) : Option (FileSystem β τ) :=
  if (fs.files.get? path).isSome then
    some ⟨fs.dirs, fs.files.erase path, by
      intro other file hfile
      rw [Dict.get?_erase] at hfile
      split_ifs at hfile
      exact fs.rooted other file hfile⟩
  else none

/-- Remove a directory that is empty. -/
def rmdir? (dir : Path) : Option (FileSystem β τ) :=
  if h : fs.IsDir dir ∧ fs.listDir dir = [] then
    some ⟨fs.dirs.filter (· ≠ dir), fs.files, by
      intro path file hfile
      obtain ⟨hroot, hdir⟩ := fs.rooted path file hfile
      have hne : path.dropLast ≠ dir := by
        intro heq
        have hlisted := fs.mem_listDir hfile
        rw [heq, h.2] at hlisted
        cases hlisted
      exact ⟨hroot, by simp [hdir, hne]⟩⟩
  else none

variable {fs} {gs : FileSystem β τ} {path dir other : Path}

@[simp] theorem files_mkdir (dir : Path) : (fs.mkdir dir).files = fs.files := rfl

theorem mem_dirs_mkdir_of_prefix (fs : FileSystem β τ) (h : other <+: dir) :
    other ∈ (fs.mkdir dir).dirs := by
  by_cases hother : other ∈ fs.dirs
  · exact List.mem_append_left _ hother
  · apply List.mem_append_right
    simp [hother, h]

theorem mem_dirs_mkdir_self (fs : FileSystem β τ) (dir : Path) : dir ∈ (fs.mkdir dir).dirs :=
  mem_dirs_mkdir_of_prefix fs (List.prefix_refl dir)

theorem mem_dirs_mkdir (h : other ∈ fs.dirs) (dir : Path) : other ∈ (fs.mkdir dir).dirs :=
  List.mem_append_left _ h

theorem write?_of_mem (hroot : path ≠ []) (hdir : path.dropLast ∈ fs.dirs) (content : β)
    (time : τ) :
    ∃ gs, fs.write? path content time = some gs ∧ gs.dirs = fs.dirs ∧
      gs.files = fs.files.set path ⟨content, time⟩ := by
  refine ⟨_, dif_pos ⟨hroot, hdir⟩, rfl, rfl⟩

theorem write?_eq_some {content : β} {time : τ} (h : fs.write? path content time = some gs) :
    gs.files = fs.files.set path ⟨content, time⟩ := by
  unfold write? at h
  split_ifs at h
  cases h
  rfl

theorem write?_isSome {content : β} {time : τ} (h : fs.write? path content time = some gs) :
    path ≠ [] ∧ path.dropLast ∈ fs.dirs := by
  unfold write? at h
  split_ifs at h with hplace
  exact hplace

theorem dirs_write? {content : β} {time : τ} (h : fs.write? path content time = some gs) :
    gs.dirs = fs.dirs := by
  unfold write? at h
  split_ifs at h
  cases h
  rfl

theorem unlink?_eq_some (h : fs.unlink? path = some gs) :
    gs.dirs = fs.dirs ∧ gs.files = fs.files.erase path ∧
      ∃ file, fs.files.get? path = some file := by
  unfold unlink? at h
  split_ifs at h with hfile
  cases h
  exact ⟨rfl, rfl, Option.isSome_iff_exists.mp hfile⟩

theorem rmdir?_eq_some (h : fs.rmdir? dir = some gs) :
    gs.files = fs.files ∧ ∀ other ∈ fs.dirs, other ≠ dir → other ∈ gs.dirs := by
  unfold rmdir? at h
  split_ifs at h with hempty
  cases h
  refine ⟨rfl, ?_⟩
  intro other hother hne
  simp [hother, hne]

end FileSystem

end Framework
