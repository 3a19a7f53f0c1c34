import CurlScript.Proofs.Entries
import CurlScript.Tree

/-!
What changes of a tree do to its files: making directories leaves them all alone, and writing to a
path touches one location.
-/

namespace CurlScript.Tree

variable {tree around made written : Tree} {location other : Location} {path : Path}

def fileAt? (tree : Tree) (location : Location) : Option String :=
  match tree.at? location with
  | some (.file text) => some text
  | _ => none

def SameFiles (after before : Tree) : Prop :=
  ∀ location, after.fileAt? location = before.fileAt? location

theorem SameFiles.refl (tree : Tree) : SameFiles tree tree := fun _ => rfl

theorem SameFiles.trans {first middle last : Tree} (here : SameFiles last middle)
    (there : SameFiles middle first) : SameFiles last first :=
  fun location => (here location).trans (there location)

theorem at?_put_of_ne (different : other ≠ location) (entry : Entry) :
    (tree.put location entry).at? other = tree.at? other := by
  unfold at? put
  rw [Entries.lookup_insert_of_ne entry different]

/-- Only where the current directory is or around it can an entry not be put. -/
theorem at?_put_self (free : tree.at? location ≠ some .directory) (entry : Entry) :
    (tree.put location entry).at? location = some entry := by
  unfold at? at free
  unfold at? put
  split at free
  · exact absurd rfl free
  · rw [if_neg ‹_›, Entries.lookup_insert_self]

theorem sameFiles_put_directory (absent : tree.at? location = none) :
    SameFiles (tree.put location .directory) tree := by
  intro other
  unfold fileAt?
  by_cases same : other = location
  · rw [same, at?_put_self (by simp [absent]), absent]
  · rw [at?_put_of_ne same]

theorem sameFiles_makeDirectory (done : tree.makeDirectory path = .ok made) :
    SameFiles made tree := by
  unfold makeDirectory at done
  cases located : tree.locate path with
  | error error => simp [located, bind, Except.bind] at done
  | ok location =>
      simp only [located, bind, Except.bind] at done
      split at done
      · cases done
      · rename_i absent
        obtain rfl := Except.ok.inj done
        exact sameFiles_put_directory absent

theorem tree_orPresent (error : Error) : (tree.orPresent path error).tree = tree := by
  unfold orPresent
  split <;> rfl

/-- Directories may be made even if one of them fails, but no file changes. -/
theorem sameFiles_makeDirectories (tree : Tree) (root : String) (names : List String) :
    SameFiles (tree.makeDirectories root names).tree tree := by
  induction names with
  | nil => exact .refl tree
  | cons name outer ih =>
      rw [makeDirectories]
      split
      · exact sameFiles_makeDirectory ‹_›
      · split
        · rename_i around outerMade
          rw [outerMade] at ih
          split
          · exact (sameFiles_makeDirectory ‹_›).trans ih
          · rw [tree_orPresent]
            exact ih
        · exact ih
      · rw [tree_orPresent]
        exact .refl tree

/-- A path leads to the same place after a file has been written there: the way to it goes through
directories only. -/
theorem walk_put_file (free : tree.at? location ≠ some .directory) (text : String)
    {start found : Location} {names : List String} (walked : tree.walk start names = .ok found) :
    (tree.put location (.file text)).walk start names = .ok found := by
  induction names generalizing start with
  | nil => exact walked
  | cons name rest ih =>
      rw [walk] at walked ⊢
      split at walked
      · cases walked
      · cases walked
      · rename_i isDirectory
        have elsewhere : start ≠ location := by
          rintro rfl
          exact free isDirectory
        rw [at?_put_of_ne elsewhere, isDirectory]
        dsimp only
        split at walked
        · cases walked
        · rw [if_neg ‹_›]
          exact ih walked

theorem locate_put_file (free : tree.at? location ≠ some .directory) (text : String)
    {found : Location} (located : tree.locate path = .ok found) :
    (tree.put location (.file text)).locate path = .ok found := by
  unfold locate locateNames at located ⊢
  split at located
  · cases located
  · rw [if_neg ‹_›]
    split at located
    · cases located
    · rw [if_neg ‹_›]
      exact walk_put_file free text located

structure Wrote (before after : Tree) (path : Path) (text : String) : Prop where
  read : after.read path = .ok text
  only : ∀ location, after.locate path ≠ .ok location →
    after.fileAt? location = before.fileAt? location

theorem wrote_write {text : String} (done : tree.write path text = .ok written) :
    Wrote tree written path text := by
  unfold write at done
  cases located : tree.locate path with
  | error error => simp [located, bind, Except.bind] at done
  | ok location =>
      simp only [located, bind, Except.bind] at done
      split at done
      · cases done
      · rename_i free
        obtain rfl := Except.ok.inj done
        have there := locate_put_file free text located
        constructor
        · simp [read, find, entry, there, bind, Except.bind, at?_put_self free]
        · intro other elsewhere
          rw [there, ne_eq, Except.ok.injEq] at elsewhere
          unfold fileAt?
          rw [at?_put_of_ne (Ne.symm elsewhere)]

theorem Wrote.of_sameFiles {text : String} (wrote : Wrote around written path text)
    (same : SameFiles around tree) : Wrote tree written path text :=
  ⟨wrote.read, fun location elsewhere => (wrote.only location elsewhere).trans (same location)⟩

end CurlScript.Tree
