import KernelStore.Bytes.Content

/-!
Files, and directories with the names in them. Putting an entry at a location, or removing the one
that is there, changes nothing beside that location (`contentAt?_put`, `isDirectoryAt_put`), and
where the directory is there it leaves exactly what was put (`at?_put`).
-/

namespace KernelStore

/-- A place in a tree: the names on the way from the root. -/
abbrev Location := List String

inductive Entry
  | file (content : Content)
  | directory (entries : List (String × Entry))

namespace Entry

def isDirectory : Entry → Bool
  | file _ => false
  | directory _ => true

def content? : Entry → Option Content
  | file content => some content
  | directory _ => none

/-- What is in a directory. Nothing is in a file. -/
def entries : Entry → List (String × Entry)
  | file _ => []
  | directory entries => entries

def at? (entry : Entry) : Location → Option Entry
  | [] => some entry
  | name :: rest => (entry.entries.lookup name).bind (·.at? rest)

def isDirectoryAt (entry : Entry) (location : Location) : Bool :=
  (entry.at? location).any isDirectory

def contentAt? (entry : Entry) (location : Location) : Option Content :=
  (entry.at? location).bind content?

/-- Entries in which a name stands for something else, or for nothing. -/
def replace (name : String) (new : Option Entry) (entries : List (String × Entry)) :
    List (String × Entry) :=
  (new.map (name, ·)).toList ++ entries.filter (·.1 != name)

/-- Puts something else, or nothing, at a location in a directory that is there. -/
def put (new : Option Entry) : Location → Entry → Entry
  | [], entry => entry
  | _ :: _, file content => file content
  | [name], directory entries => directory (replace name new entries)
  | name :: next :: rest, directory entries =>
      directory <| entries.map fun (key, entry) =>
        (key, if key = name then put new (next :: rest) entry else entry)

/-! ### What putting leaves -/

theorem lookup_replace (name key : String) (new : Option Entry) (entries : List (String × Entry)) :
    (replace name new entries).lookup key = if key = name then new else entries.lookup key := by
  have kept : (entries.filter (·.1 != name)).lookup key =
      if key = name then none else entries.lookup key := by
    induction entries with
    | nil => simp
    | cons first rest ih =>
      obtain ⟨outer, entry⟩ := first
      by_cases here : outer = name <;> by_cases same : key = outer <;> grind
  unfold replace
  cases new <;> grind [Option.map, Option.toList]

theorem lookup_map (name key : String) (change : Entry → Entry)
    (entries : List (String × Entry)) :
    (entries.map fun (key, entry) => (key, if key = name then change entry else entry)).lookup key =
      (entries.lookup key).map fun entry => if key = name then change entry else entry := by
  induction entries with
  | nil => rfl
  | cons first rest ih =>
    obtain ⟨outer, entry⟩ := first
    by_cases same : key = outer <;> grind

theorem at?_put (entry : Entry) (new : Option Entry) (directory : Location) (name : String)
    (rest : Location) (there : entry.isDirectoryAt directory) :
    (entry.put new (directory ++ [name])).at? (directory ++ name :: rest) =
      new.bind (·.at? rest) := by
  induction directory generalizing entry with
  | nil =>
    cases entry with
    | file content => simp [isDirectoryAt, at?, isDirectory] at there
    | directory held => simp [put, at?, entries, lookup_replace]
  | cons first inner ih =>
    cases entry with
    | file content => simp [isDirectoryAt, at?, entries] at there
    | directory held =>
      simp only [isDirectoryAt, at?, entries] at there
      cases found : held.lookup first with
      | none => simp [found] at there
      | some entry =>
        rw [found] at there
        have := ih entry there
        cases inner <;> simp_all [put, at?, entries, lookup_map]

/-- Whatever is read off an entry, and off a directory without regard to what is in it, is the same
beside the location. -/
private theorem view_put {α : Type} (view : Entry → α)
    (blind : ∀ held other, view (directory held) = view (directory other)) (entry : Entry)
    (new : Option Entry) (location place : Location) (beside : ¬location <+: place) :
    ((entry.put new location).at? place).map view = (entry.at? place).map view := by
  induction location generalizing entry place with
  | nil => exact absurd List.nil_prefix beside
  | cons name inner ih =>
    cases entry with
    | file content => rfl
    | directory held =>
      cases place with
      | nil => cases inner <;> simp [put, at?, blind _ held]
      | cons key rest =>
        cases inner with
        | nil =>
          have : key ≠ name := fun same => beside (by simp [same])
          simp [put, at?, entries, lookup_replace, this]
        | cons next inner =>
          simp only [put, at?, entries, lookup_map]
          cases held.lookup key with
          | none => rfl
          | some entry =>
            by_cases same : key = name
            · subst same
              simpa using ih entry rest fun below => beside (by simpa using below)
            · simp [same]

theorem contentAt?_put (entry : Entry) (new : Option Entry) (location place : Location)
    (beside : ¬location <+: place) :
    (entry.put new location).contentAt? place = entry.contentAt? place := by
  have same := view_put content? (fun _ _ => rfl) entry new location place beside
  unfold contentAt?
  revert same
  cases (entry.put new location).at? place <;> cases entry.at? place <;> simp +contextual

theorem isDirectoryAt_put (entry : Entry) (new : Option Entry) (location place : Location)
    (beside : ¬location <+: place) :
    (entry.put new location).isDirectoryAt place = entry.isDirectoryAt place := by
  have same := view_put isDirectory (fun _ _ => rfl) entry new location place beside
  unfold isDirectoryAt
  revert same
  cases (entry.put new location).at? place <;> cases entry.at? place <;> simp +contextual

end Entry

end KernelStore
