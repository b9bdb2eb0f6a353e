import Mathlib.Data.List.Basic
import Mathlib.Logic.Function.Basic

/-!
# Files and their names

A file has a content, and a name that leads to it. A stream that has been opened goes on writing to
its file when the name has been removed or has been given to another file, so the content and the
name are two things here. What is written at a position behind the end is preceded by zeros.
-/

namespace Files

variable {ν : Type*}

/-- The names, what each of them leads to, and what the files hold. -/
structure FileSystem (ν : Type*) where
  link : ν → Option Nat
  content : Nat → List UInt8
  next : Nat
  fresh : ∀ name file, link name = some file → file < next
  single : ∀ name other file, link name = some file → link other = some file → name = other

/-- What is in a file after some bytes have been written at a position. -/
def writeAt (pos : Nat) (data content : List UInt8) : List UInt8 :=
  if data = [] then content
  else (content ++ List.replicate (pos - content.length) 0).take pos ++ data ++
    content.drop (pos + data.length)

/-- What is in an empty file after some bytes have been written behind a gap. -/
def behind (gap : Nat) (data : List UInt8) : List UInt8 :=
  if data = [] then [] else List.replicate gap 0 ++ data

/-- More bytes are written where the last ones end. -/
theorem write_behind (gap : Nat) (data more : List UInt8) :
    writeAt (gap + data.length) more (behind gap data) = behind gap (data ++ more) := by
  unfold writeAt behind
  by_cases hmore : more = []
  · rw [if_pos hmore, hmore, List.append_nil]
  rw [if_neg hmore, if_neg (List.append_ne_nil_of_right_ne_nil data hmore)]
  by_cases hdata : data = []
  · simp [hdata]
  · rw [if_neg hdata]
    have hlength : (List.replicate gap (0 : UInt8) ++ data).length = gap + data.length := by simp
    rw [hlength, Nat.sub_self, List.replicate_zero, List.append_nil, ← hlength, List.take_length,
      List.drop_eq_nil_of_le (Nat.le_add_right _ _), List.append_nil, List.append_assoc]

namespace FileSystem

variable (fs : FileSystem ν)

/-- What a name leads to. -/
def read (name : ν) : Option (List UInt8) := (fs.link name).map fs.content

/-- Some bytes are written to a file. -/
def write (file pos : Nat) (data : List UInt8) : FileSystem ν :=
  { fs with content := Function.update fs.content file (writeAt pos data (fs.content file)) }

/-- Names are removed. -/
def removeAll (gone : ν → Bool) : FileSystem ν :=
  { fs with
    link := fun name => if gone name then none else fs.link name
    fresh := by
      intro name file h
      split_ifs at h
      exact fs.fresh _ _ h
    single := by
      intro name other file h₁ h₂
      split_ifs at h₁ h₂
      exact fs.single _ _ _ h₁ h₂ }

variable {fs} {name other new : ν} {file : Nat}

variable [DecidableEq ν]

/-- A file is opened for writing: it is emptied, or made if there is none. -/
def create (fs : FileSystem ν) (name : ν) : FileSystem ν × Nat :=
  match fs.link name with
  | some file => ({ fs with content := Function.update fs.content file [] }, file)
  | none =>
      ({ link := Function.update fs.link name (some fs.next)
         content := Function.update fs.content fs.next []
         next := fs.next + 1
         fresh := by
           intro other file h
           by_cases hother : other = name
           · rw [hother, Function.update_self] at h
             cases h
             exact Nat.lt_succ_self _
           · rw [Function.update_of_ne hother] at h
             exact Nat.lt_succ_of_lt (fs.fresh _ _ h)
         single := by
           intro one other file hone hother
           by_cases h₁ : one = name <;> by_cases h₂ : other = name
           · rw [h₁, h₂]
           · rw [h₁, Function.update_self] at hone
             rw [Function.update_of_ne h₂] at hother
             cases hone
             exact absurd (fs.fresh _ _ hother) (Nat.lt_irrefl _)
           · rw [h₂, Function.update_self] at hother
             rw [Function.update_of_ne h₁] at hone
             cases hother
             exact absurd (fs.fresh _ _ hone) (Nat.lt_irrefl _)
           · rw [Function.update_of_ne h₁] at hone
             rw [Function.update_of_ne h₂] at hother
             exact fs.single _ _ _ hone hother }, fs.next)

/-- A file gets another name, which it takes from the file that has had it; nothing happens if there
is none. -/
def rename (fs : FileSystem ν) (name new : ν) : Option (FileSystem ν) :=
  if (fs.link name).isNone then none
  else some { fs with
    link := fun other =>
      if other = new then fs.link name else if other = name then none else fs.link other
    fresh := by
      intro other file h
      split_ifs at h <;> exact fs.fresh _ _ h
    single := by
      intro one other file h₁ h₂
      by_cases hone : one = new <;> by_cases hother : other = new
      · rw [hone, hother]
      · rw [if_pos hone] at h₁
        rw [if_neg hother] at h₂
        split_ifs at h₂ with hname
        exact absurd (fs.single _ _ _ h₂ h₁) hname
      · rw [if_neg hone] at h₁
        rw [if_pos hother] at h₂
        split_ifs at h₁ with hname
        exact absurd (fs.single _ _ _ h₁ h₂) hname
      · rw [if_neg hone] at h₁
        rw [if_neg hother] at h₂
        split_ifs at h₁ h₂
        exact fs.single _ _ _ h₁ h₂ }

end FileSystem

end Files
