import Offside.Proofs.Dumping
import Offside.Proofs.Encoding
import Offside.Proofs.Loading

/-!
# A call delivers all of its result or nothing

A call makes its whole result before it opens an output, and it opens at most one.  So a call that
does not end well has shown nothing on the standard output and has left all files as they were, at
whatever stage it failed.  A call that ends well, without having been asked for help or the version,
has delivered its result and a line feed to one place: to the standard output, with all files as they
were, or to one file, which holds nothing else then, with all other files as they were.  The file may
be the one that the input was read from, by the same name or, where there are links, by another; it
is read by the name that it has been written by (`Files.read_of_wayTo`).

There is one thing in the way: a file is emptied as soon as it is opened, and a text with surrogates
cannot be written to it afterwards.  `WritesWhatOpens` says that writing to a file that has been
opened succeeds.  `Command.runOn_delivers` is the main statement, for any system.
-/

namespace Offside

namespace Files

section

variable (files : Files) {way : Way} (bytes : List UInt8)

/-- A file holds what has been put into it, and nothing of what it held before. -/
lemma bytes?_put_self : (files.put way bytes).bytes? way = some bytes := by
  simp [put, bytes?]

/-- Putting something into a file keeps what all other files hold. -/
lemma bytes?_put_of_ne {other : Way} (h : other ≠ way) :
    (files.put way bytes).bytes? other = files.bytes? other :=
  lookup_cons_filter_of_ne h bytes files.entries

/-- Putting something into a file makes directories on the way to it, and no others. -/
lemma isDirectory_put (other : Way) :
    (files.put way bytes).isDirectory other =
      (other.isPrefixOf way && other != way || files.isDirectory other) := by
  have hput : (files.put way bytes).isDirectory other =
      (other.isPrefixOf way && other != way ||
        files.entries.any fun entry => entry.1 != way && (other.isPrefixOf entry.1 &&
          other != entry.1)) := by
    rw [← List.any_filter]
    rfl
  rw [hput]
  cases hway : other.isPrefixOf way && other != way with
  | true => rfl
  | false =>
    refine congrArg (List.any files.entries) (funext fun (entry, _) => ?_)
    dsimp only
    by_cases hentry : entry = way
    · rw [hentry, hway, Bool.and_false]
    · rw [bne_iff_ne.mpr hentry, Bool.true_and]

end

/-! ## Reading what has been written -/

/-- A place where a file is or may be made. -/
inductive Opens (way : Way) : Spot → Prop
  | file (held : List UInt8) : Opens way (.file way held)
  | free : Opens way (.free way)

variable {files : Files} {links : Links} {name : Text} {way : Way}

/-- Steps that lead to a place for a file lead to the file once it has been written. -/
lemma follow_put {base steps : Way} {spot : Spot} (h : files.follow links base steps = .ok spot)
    (hopens : Opens way spot) (bytes : List UInt8) :
    (files.put way bytes).follow links base steps = .ok (.file way bytes) := by
  induction steps generalizing base with
  | nil =>
    obtain rfl := Except.ok.inj h
    cases hopens
  | cons step rest ih =>
    rw [follow] at h ⊢
    split at h
    · next hstill => rw [if_pos hstill, ih h]
    · next hstill =>
      rw [if_neg hstill]
      split at h
      · next hout => rw [if_pos hout, ih h]
      · next hout =>
        rw [if_neg hout]
        split at h
        · exact absurd h nofun
        · next hshort =>
          rw [if_neg hshort]
          dsimp only at h ⊢
          split at h
          · next hdirectory =>
            rw [isDirectory_put, hdirectory, Bool.or_true, if_pos rfl]
            exact ih h
          · next hdirectory =>
            -- The last step, which leads to the place itself.
            obtain ⟨hrest, hnext⟩ :
                rest.isEmpty = true ∧ links.behind (base ++ [step]) = way := by
              split at h
              · split at h
                · next hrest =>
                  obtain rfl := Except.ok.inj h
                  cases hopens
                  exact ⟨hrest, rfl⟩
                · exact absurd h nofun
              · split at h
                · next hrest =>
                  obtain rfl := Except.ok.inj h
                  cases hopens
                  exact ⟨hrest, rfl⟩
                · exact absurd h nofun
            rw [hnext] at hdirectory ⊢
            have hself : (files.put way bytes).isDirectory way = false := by
              rw [isDirectory_put, bne_self_eq_false, Bool.and_false, Bool.false_or]
              exact Bool.eq_false_of_not_eq_true hdirectory
            rw [hself, bytes?_put_self, hrest]
            rfl

/-- Steps with a stay at their end lead to a directory if they lead anywhere. -/
lemma eq_directory_of_follow {base steps : Way} {spot : Spot}
    (h : files.follow links base (steps ++ [Way.still]) = .ok spot) : spot = .directory := by
  induction steps generalizing base with
  | nil => exact (Except.ok.inj h).symm
  | cons step rest ih =>
    have hrest : (rest ++ [Way.still]).isEmpty = false :=
      List.isEmpty_eq_false_iff.mpr (List.append_ne_nil_of_right_ne_nil rest nofun)
    rw [List.cons_append, follow, hrest] at h
    split at h
    · exact ih h
    · split at h
      · exact ih h
      · split at h
        · exact absurd h nofun
        · dsimp only at h
          split at h
          · exact ih h
          · split at h <;> exact absurd h nofun

/-- A name that leads to a place for a file has bytes and steps that do. -/
lemma exists_of_wayTo (h : files.wayTo name links = .ok way) :
    ∃ bytes spot, checkName name = .ok bytes ∧
      files.followFrom links bytes (Way.ofBytes bytes) = .ok spot ∧ Opens way spot := by
  unfold wayTo at h
  cases hbytes : checkName name with
  | error fault =>
    rw [hbytes] at h
    exact absurd h nofun
  | ok bytes =>
    rw [hbytes] at h
    dsimp only [bind, Except.bind] at h
    generalize hspot : files.followFrom links bytes _ = found at h
    have hopens : ∃ spot, found = .ok spot ∧ Opens way spot := by
      split at h
      · obtain rfl := Except.ok.inj h
        exact ⟨_, rfl, .file _⟩
      · obtain rfl := Except.ok.inj h
        exact ⟨_, rfl, .free⟩
      · exact absurd h nofun
      · exact absurd h nofun
    obtain ⟨spot, rfl, hopens⟩ := hopens
    refine ⟨bytes, spot, rfl, ?_, hopens⟩
    split at hspot
    · -- A slash at the end asks for a directory, which is no place for a file.
      have hdirectory : spot = .directory := by
        unfold followFrom at hspot
        split at hspot
        · exact absurd hspot nofun
        · split at hspot
          · exact absurd hspot nofun
          · exact eq_directory_of_follow hspot
      rw [hdirectory] at hopens
      cases hopens
    · exact hspot

/-- A file that has been written is read by the name that it has been written by. -/
theorem read_of_wayTo (h : files.wayTo name links = .ok way) (bytes : List UInt8) :
    (files.put way bytes).read name links = .ok bytes := by
  obtain ⟨nameBytes, spot, hname, hspot, hopens⟩ := exists_of_wayTo h
  have hput : (files.put way bytes).followFrom links nameBytes (Way.ofBytes nameBytes) =
      .ok (.file way bytes) := by
    unfold followFrom at hspot ⊢
    split at hspot
    · exact absurd hspot nofun
    · next hsome =>
      rw [if_neg hsome]
      split at hspot
      · exact absurd hspot nofun
      · next hshort =>
        rw [if_neg hshort]
        exact follow_put hspot hopens bytes
  rw [read, hname]
  dsimp only [bind, Except.bind]
  rw [hput]
  rfl

/-! ## Writing -/

/-- A file is written by opening it, encoding the text and putting the bytes into it. -/
lemma write_eq_ok {files' : Files} {t : Text} (h : files.write name t links = (files', .ok ())) :
    ∃ way bytes, files.wayTo name links = .ok way ∧ Utf8.encode t = .ok bytes ∧
      files' = files.put way bytes := by
  unfold write at h
  cases hway : files.wayTo name links with
  | error fault =>
    rw [hway] at h
    exact absurd (congrArg Prod.snd h) nofun
  | ok way =>
    rw [hway] at h
    dsimp only at h
    cases hbytes : Utf8.encode t with
    | error fault =>
      rw [hbytes] at h
      exact absurd (congrArg Prod.snd h) nofun
    | ok bytes =>
      rw [hbytes] at h
      exact ⟨way, bytes, rfl, rfl, (congrArg Prod.fst h).symm⟩

/-- A file that cannot be opened is not written to, nor is any other. -/
lemma write_of_wayTo_error {t : Text} {fault : Fault} (h : files.wayTo name links = .error fault) :
    files.write name t links = (files, .error fault) := by
  unfold write
  rw [h]

end Files

namespace Command

/-! ## What is delivered -/

/-- An outcome has delivered a text to a place, and nothing to any other.  A file holds bytes that
stand for the text, and nothing else; it is read by the name that it has been written by. -/
inductive Outcome.Delivers (out : Outcome) (links : Links) (files : Files) (t : Text) :
    Target → Prop
  | stdout (shown : out.stdout = t) (kept : out.files = files) :
    Delivers out links files t .stdout
  | file {name : Text} {way : Way} {bytes : List UInt8}
    (opened : files.wayTo name links = .ok way) (encoded : Utf8.decode bytes = .ok t)
    (shown : out.stdout = []) (holds : out.files.bytes? way = some bytes)
    (isRead : out.files.read name links = .ok bytes)
    (kept : ∀ other, other ≠ way → out.files.bytes? other = files.bytes? other) :
    Delivers out links files t (.file name)

/-- An outcome that has delivered nothing. -/
structure Outcome.IsBare (out : Outcome) (files : Files) : Prop where
  stdout : out.stdout = []
  files : out.files = files

/-- Writing to a file that has been opened succeeds. -/
def Job.WritesWhatOpens (links : Links) (job : Job) (made : Except Fault Text) (files : Files) :
    Prop :=
  ∀ {name t way}, job.output = .file name → made = .ok t → files.wayTo name links = .ok way →
    (files.write name t links).2 = .ok ()

namespace Job

/-- A job that has made no text delivers nothing and does not end well. -/
lemma isBare_leave_of_error (links : Links) (job : Job) (files : Files) {made : Logged Text}
    {fault : Fault} (h : made.result = .error fault) :
    (job.leave links made files).IsBare files ∧ (job.leave links made files).ending ≠ .ok 0 := by
  rw [leave_of_error h]
  exact ⟨⟨rfl, rfl⟩, endingBy_ne_ok_zero fault⟩

variable {links : Links} {job : Job} {made : Logged Text} {files : Files}

/-- A job that has made a text delivers it where it belongs and ends well, or it delivers nothing
and does not end well. -/
lemma delivers_or_isBare_leave {t : Text} (h : made.result = .ok t)
    (hwrites : job.WritesWhatOpens links made.result files) :
    (job.leave links made files).Delivers links files t job.output ∧
        (job.leave links made files).ending = .ok 0 ∨
      (job.leave links made files).IsBare files ∧
        (job.leave links made files).ending ≠ .ok 0 := by
  rw [leave_of_ok h]
  cases houtput : job.output with
  | stdout =>
    rw [deliver]
    cases Utf8.encode t with
    | ok bytes => exact .inl ⟨.stdout rfl rfl, rfl⟩
    | error f => exact .inr ⟨⟨rfl, rfl⟩, endingBy_ne_ok_zero (.unencodable f)⟩
  | file name =>
    rw [deliver]
    cases hway : files.wayTo name links with
    | error fault =>
      rw [Files.write_of_wayTo_error hway]
      exact .inr ⟨⟨rfl, rfl⟩, endingBy_ne_ok_zero fault⟩
    | ok way =>
      have hwritten := hwrites houtput h hway
      cases hleft : files.write name t links with
      | mk left written =>
        rw [hleft] at hwritten
        obtain rfl : written = .ok () := hwritten
        obtain ⟨way', bytes, hway', hbytes, rfl⟩ := Files.write_eq_ok hleft
        refine .inl ⟨.file hway' (Utf8.decode_of_encode hbytes) rfl ?_ ?_ ?_, rfl⟩
        · exact files.bytes?_put_self bytes
        · exact Files.read_of_wayTo hway' bytes
        · exact fun other hother => files.bytes?_put_of_ne bytes hother

/-- What a job makes is its result with a line feed. -/
lemma exists_of_perform {parser : Parser} {input : Except Fault Text} {t : Text}
    (h : (job.perform parser input).result = .ok t) :
    ∃ source result, input = .ok source ∧ (job.result parser source).result = .ok result ∧
      t = result ++ Text.ofString "\n" := by
  rw [perform] at h
  obtain ⟨source, hsource, h⟩ := Logged.bind_result_eq_ok h
  obtain ⟨result, hresult, ht⟩ := Logged.bind_result_eq_ok h
  exact ⟨source, result, hsource, hresult, (Except.ok.inj ht).symm⟩

end Job

/-! ## What calls come to -/

/-- Words that ask for help or for the version. -/
def AsksForInformation (words : List Text) : Prop :=
  Options.read words = .error .help ∨ ∃ o, Options.read words = .ok o ∧ o.showsVersion = true

/-- A call is asked for help or the version and ends well, it ends otherwise at once and shows
nothing on the standard output, or it has a job to do. -/
lemma plan_cases (system : System) (words : List Text) :
    (AsksForInformation words ∧
      ∃ stdout stderr, plan system words = .finish (.ok 0) stdout stderr) ∨
    (∃ ending stderr, ending ≠ .ok 0 ∧ plan system words = .finish ending [] stderr) ∨
    ∃ o n, Options.read words = .ok o ∧ plan system words = .work (jobFor o n) := by
  unfold plan AsksForInformation
  cases hread : Options.read words with
  | error stop =>
    cases stop with
    | help => exact .inl ⟨.inl rfl, _, _, rfl⟩
    | misfit m => exact .inr (.inl ⟨.ok 2, _, by simp, rfl⟩)
  | ok o =>
    cases hversion : o.showsVersion with
    | true =>
      have hfinish : planFor system o = .finish (.ok 0) (name ++ " " ++ version ++ "\n") [] :=
        if_pos hversion
      exact .inl ⟨.inr ⟨o, rfl, hversion⟩, _, _, hfinish⟩
    | false =>
      obtain ⟨n, hwork⟩ | ⟨ending, stderr, hending, hfinish⟩ := planFor_cases system o.indent
      · exact .inr (.inr ⟨o, n, rfl, hwork o hversion rfl⟩)
      · exact .inr (.inl ⟨ending, stderr, hending, hfinish o hversion rfl⟩)

/-- Writing to a file that a call has opened succeeds. -/
def WritesWhatOpens (system : System) (words : List Text) (stdin : Text) (files : Files) : Prop :=
  ∀ job, plan system words = .work job → job.WritesWhatOpens system.links
    (job.perform system.parser (job.read system.links stdin files)).result files

/-- A call delivers its whole result or nothing.  If it does not end well, nothing is on the standard
output and all files are as they were.  If it ends well and was not asked for help or the version, its
result, followed by a line feed, has gone to one place, and nothing to any other. -/
theorem runOn_delivers (system : System) {words : List Text} {stdin : Text} {files : Files}
    (hwrites : WritesWhatOpens system words stdin files) :
    ((runOn system words stdin files).ending ≠ .ok 0 →
      (runOn system words stdin files).IsBare files) ∧
    ((runOn system words stdin files).ending = .ok 0 → ¬AsksForInformation words →
      ∃ o n source result, Options.read words = .ok o ∧
        plan system words = .work (jobFor o n) ∧
        (jobFor o n).read system.links stdin files = .ok source ∧
        ((jobFor o n).result system.parser source).result = .ok result ∧
        (runOn system words stdin files).Delivers system.links files
          (result ++ Text.ofString "\n") (targetOf o.output)) := by
  obtain ⟨hasks, stdout, stderr, hplan⟩ | ⟨ending, stderr, hending, hplan⟩ | ⟨o, n, hread, hplan⟩ :=
    plan_cases system words
  · have hrun : (runOn system words stdin files).ending = .ok 0 := by rw [runOn, hplan]
    exact ⟨fun h => absurd hrun h, fun _ h => absurd hasks h⟩
  · have hrun : runOn system words stdin files = ⟨ending, [], stderr, files⟩ := by
      rw [runOn, hplan]
    rw [hrun]
    exact ⟨fun _ => ⟨rfl, rfl⟩, fun h => absurd h hending⟩
  · have hrun : runOn system words stdin files = (jobFor o n).leave system.links
        ((jobFor o n).perform system.parser ((jobFor o n).read system.links stdin files)) files := by
      rw [runOn, hplan]
      rfl
    rw [hrun]
    cases hmade : ((jobFor o n).perform system.parser
        ((jobFor o n).read system.links stdin files)).result with
    | error fault =>
      obtain ⟨hbare, hending⟩ :=
        Job.isBare_leave_of_error system.links (jobFor o n) files hmade
      exact ⟨fun _ => hbare, fun h => absurd h hending⟩
    | ok t =>
      obtain ⟨source, result, hsource, hresult, rfl⟩ := Job.exists_of_perform hmade
      obtain ⟨hdelivers, hending⟩ | ⟨hbare, hending⟩ :=
        Job.delivers_or_isBare_leave hmade (hwrites (jobFor o n) hplan)
      · refine ⟨fun h => absurd hending h, fun _ _ => ?_⟩
        exact ⟨o, n, source, result, hread, hplan, hsource, hresult, hdelivers⟩
      · exact ⟨fun _ => hbare, fun h => absurd h hending⟩

/-- A program is converted into the file that its source was read from, by another name of it:
nothing is shown, the file holds the text and a line feed, and the other file is as it was. -/
theorem runOn_delivers_into_source :
    let words := [Text.ofString "a.js", Text.ofString "-o", Text.ofString "b.js"]
    let a : Way := [[97, 46, 106, 115]]
    let b : Way := [[98, 46, 106, 115]]
    let c : Way := [[99, 46, 106, 115]]
    let files : Files := ⟨[(a, [105, 43, 43]), (c, [99])]⟩
    let parser : Parser := .constant incrementProgram.toNode
    let system : System := { System.ofParser parser with links := [(b, a)] }
    WritesWhatOpens system words [] files ∧
    (runOn system words [] files).ending = .ok 0 ∧ ¬AsksForInformation words ∧
    (runOn system words [] files).Delivers system.links files (Text.ofString "i += 1\n")
      (.file (Text.ofString "b.js")) ∧
    (runOn system words [] files).stdout = [] ∧
    (runOn system words [] files).files.bytes? a = some [105, 32, 43, 61, 32, 49, 10] ∧
    (runOn system words [] files).files.bytes? c = some [99] := by
  intro words a b c files parser system
  let o : Options :=
    { input := some (Text.ofString "a.js"), output := some (Text.ofString "b.js") }
  have hread : Options.read words = .ok o := rfl
  have hwork : plan system words = .work (jobFor o 1) := rfl
  have hwrites : WritesWhatOpens system words [] files := by
    intro job hplan name t way houtput hmade _
    obtain rfl := Plan.work.inj (hplan.symm.trans hwork)
    have hresult : ((jobFor o 1).perform system.parser
        ((jobFor o 1).read system.links [] files)).result = .ok (Text.ofString "i += 1\n") := rfl
    obtain rfl := Target.file.inj houtput
    obtain rfl := Except.ok.inj (hmade.symm.trans hresult)
    rfl
  have hending : (runOn system words [] files).ending = .ok 0 := rfl
  have hasks : ¬AsksForInformation words := by
    rintro (h | ⟨_, h, hversion⟩)
    · exact absurd (hread.symm.trans h) nofun
    · obtain rfl := Except.ok.inj (hread.symm.trans h)
      exact absurd hversion Bool.false_ne_true
  obtain ⟨_, n, source, result, ho, hplan, -, hresult, hdelivers⟩ :=
    (runOn_delivers system hwrites).2 hending hasks
  obtain rfl := Except.ok.inj (hread.symm.trans ho)
  rw [Plan.work.inj (hplan.symm.trans hwork)] at hresult
  obtain rfl : Text.ofString "i += 1" = result := Except.ok.inj hresult
  exact ⟨hwrites, hending, hasks, hdelivers, rfl, rfl, rfl⟩

end Command

end Offside
