import StorageSurvey.Proofs.Program.Unmatched
import StorageSurvey.Proofs.Sources.Loading

/-!
# Runs in a directory

A path is followed to the place that it spells if none of its components is empty or stands for a
directory, because there is a directory wherever a file lies further down.  So a file is read as the
text that was put there, and a run depends on nothing else in the directory: a snapshot that is
written to a file is the snapshot on which the command answers.
-/

namespace StorageSurvey

open StorageSurvey.CommandLine StorageSurvey.Inventory StorageSurvey.Sources

namespace Sources.Directory

variable {directory : Directory}

/-- Whether a path leads further down with each of its components. -/
def IsPlain (path : String) : Prop :=
  ∀ component ∈ components path, component ≠ "" ∧ component ≠ "." ∧ component ≠ ".."

instance : DecidablePred IsPlain := fun path =>
  inferInstanceAs (Decidable (∀ component ∈ components path, _))

/-- Such a path does not start at the root, for then its first component is empty. -/
theorem IsPlain.relative {path : String} (h : IsPlain path) : path.startsWith "/" = false := by
  rw [String.startsWith_string_eq_false_iff]
  rintro ⟨rest, hpath⟩
  have hfirst : components path = "" :: (Text.split (· == '/') rest).map String.ofList := by
    rw [components, ← hpath]
    rfl
  exact (h "" (by rw [hfirst]; exact List.mem_cons_self)).1 rfl

/-- There is a directory wherever a file lies further down. -/
theorem isDirectory_of_mem {place below : List String} {bytes : ByteArray} (hbelow : below ≠ [])
    (hfile : (place ++ below, bytes) ∈ directory.files) : directory.isDirectory place = true := by
  rw [isDirectory, Bool.or_eq_true]
  refine .inr (List.any_eq_true.mpr ⟨_, hfile, ?_⟩)
  rw [Bool.and_eq_true, bne_iff_ne, List.isPrefixOf_iff_prefix]
  exact ⟨by simpa using hbelow, List.prefix_append place below⟩

/-- A path to a file is followed to the place of the file, one component after the other. -/
theorem follow_eq_ok {place rest : List String} {bytes : ByteArray}
    (hdown : ∀ component ∈ rest, component ≠ "" ∧ component ≠ "." ∧ component ≠ "..")
    (hfile : (place ++ rest, bytes) ∈ directory.files) :
    directory.follow place rest = .ok (place ++ rest) := by
  induction rest generalizing place with
  | nil => rw [List.append_nil]; rfl
  | cons component rest ih =>
      obtain ⟨⟨hempty, hdot, hdots⟩, hrest⟩ := List.forall_mem_cons.mp hdown
      have hdirectory := isDirectory_of_mem (List.cons_ne_nil component rest) hfile
      rw [follow, hdirectory]
      simp only [Bool.not_true, Bool.false_eq_true, if_false, hempty, hdot, or_self, hdots]
      rw [ih hrest (by rwa [List.append_assoc]), List.append_assoc]
      rfl

theorem fromUTF8?_toByteArray (text : String) : String.fromUTF8? text.toByteArray = some text :=
  dif_pos text.isValidUTF8

/-- A file is read as the text that it holds. -/
theorem read_eq_ok {path text : String} (hplain : IsPlain path)
    (hfile : directory.file? (components path) = some text.toUTF8) :
    directory.read path = .ok text := by
  obtain ⟨before, after, hfiles, -⟩ := List.lookup_eq_some_iff.mp hfile
  have hmem : ([] ++ components path, text.toUTF8) ∈ directory.files := by
    rw [hfiles]
    exact List.mem_append_right before List.mem_cons_self
  have hfollow := follow_eq_ok hplain hmem
  simp [read, hplain.relative, hfollow, hfile, fromUTF8?_toByteArray, bind, Except.bind, pure,
    Except.pure]

/-- Of the files at one place it is the first that is read. -/
theorem read_ofFiles {path : String} (hplain : IsPlain path) (text : String)
    (files : List (String × ByteArray)) :
    (ofFiles ((path, text.toUTF8) :: files)).read path = .ok text :=
  read_eq_ok hplain List.lookup_cons_self

example : (ofFiles [("a/b", "first".toUTF8), ("a/b", "second".toUTF8)]).read "a/b" = .ok "first" :=
  read_ofFiles (by decide) _ _

/-- Where nothing begins as a path does, there is neither a file nor a directory further on. -/
theorem read_eq_notFound {path component : String} {rest : List String} (hplain : IsPlain path)
    (hpath : components path = component :: rest)
    (hnone : ∀ file ∈ directory.files, ¬ [component] <+: file.1) :
    directory.read path = .error .notFound := by
  have hfile : directory.file? [component] = none := by
    refine List.lookup_eq_none_iff.mpr fun file hmem => bne_iff_ne.mpr ?_
    intro heq
    exact hnone file hmem (heq ▸ List.prefix_rfl)
  have hdirectory : directory.isDirectory [component] = false := by
    rw [isDirectory, List.isEmpty_cons, Bool.false_or, List.any_eq_false]
    intro file hmem hbelow
    rw [Bool.and_eq_true, List.isPrefixOf_iff_prefix] at hbelow
    exact hnone file hmem hbelow.2
  obtain ⟨hempty, hdot, hdots⟩ := hplain component (by rw [hpath]; exact List.mem_cons_self)
  have hfollow : directory.follow [] (component :: rest) = directory.follow [component] rest := by
    simp [follow, isDirectory, hempty, hdot, hdots]
  cases rest with
  | nil =>
      simp only [read, hplain.relative, hpath, hfollow, follow, bind, Except.bind, hfile,
        hdirectory]
      rfl
  | cons next rest =>
      simp only [read, hplain.relative, hpath, hfollow, follow, hfile, hdirectory]
      rfl

end Sources.Directory

namespace Program

open StorageSurvey.Sources.Directory

variable {directory : Directory} {environment : Environment} {words : List String}
  {request : Request} {settings : SourceSettings}

/-- A run in a directory responds to what is at the path of its settings. -/
theorem runIn_of_request {surroundings : Surroundings}
    (hrequest : Request.read interface environment words = .ok request)
    (hsettings : request.settings.source = .ok settings) :
    runIn directory environment words surroundings =
      respond request settings (directory.read settings.path) surroundings := by
  rw [runIn, run_of_request hrequest hsettings]
  rfl

/-- A run answers its command on the snapshot that was written to the file of its settings. -/
theorem runIn_of_written {snapshot : Snapshot}
    (hrequest : Request.read interface environment words = .ok request)
    (hsettings : request.settings.source = .ok settings) (hkube : settings.kube = false)
    (hformat : formatOfPath settings.path = .json) (hplain : IsPlain settings.path)
    (hfile : directory.file? (components settings.path) =
      some (String.ofList (Json.pretty 0 snapshot.toDatum)).toUTF8) :
    runIn directory environment words =
      .ofAnswer (dispatch request (snapshot.within settings.scope)) := by
  rw [runIn_of_request hrequest hsettings, read_eq_ok hplain hfile]
  exact respond_of_loaded (loadSnapshot_pretty hkube hformat snapshot)

/-- A run for which there is no file says so. -/
theorem runIn_of_missing {component : String} {rest : List String}
    (hrequest : Request.read interface environment words = .ok request)
    (hsettings : request.settings.source = .ok settings) (hkube : settings.kube = false)
    (hplain : IsPlain settings.path) (hpath : components settings.path = component :: rest)
    (hnone : ∀ file ∈ directory.files, ¬ [component] <+: file.1) :
    runIn directory environment words = .notLoaded settings.path (.file .notFound) := by
  have hload : loadSnapshot settings (.error .notFound) = .error (.file .notFound) :=
    loadSnapshot_of_file hkube (Nat.zero_le _)
  rw [runIn_of_request hrequest hsettings, read_eq_notFound hplain hpath hnone, respond, hload]

end Program

end StorageSurvey
