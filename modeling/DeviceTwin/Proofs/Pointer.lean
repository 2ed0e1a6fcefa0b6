/-
The normal form of paths.

Every text is read as a path, and many texts are read as the same one. What
such texts share is their pieces between slashes that are not empty. Reading two
texts with a slash between them gives the pieces of the one and then those of
the other (`pieces_join`), and a text has no pieces if and only if there are
slashes in it and nothing else (`pieces_eq_nil_iff`). The rest follows from the
two: going on with a text is reading it behind the text of the path, and the
root is where only slashes were read.

The path of an event stays what it is while the event travels, and so does the
name, which decides whether the event is a change. Other parts need not stay: a
type that is not composed of a group and a name comes back as another one, and
floating-point numbers may come back rounded.
-/
import DeviceTwin.Change
import DeviceTwin.Proofs.Frame

namespace DeviceTwin

/-- A text is cut into empty pieces if and only if it is made of the mark. -/
theorem Text.splitAt_empty_iff {sep : Char} {cs : List Char} :
    (∀ piece ∈ splitAt sep cs, piece = []) ↔ ∀ c ∈ cs, c = sep := by
  induction cs with
  | nil => simp [splitAt]
  | cons c cs ih =>
      by_cases hc : c = sep
      · simp [splitAt, hc, ih]
      · rw [splitAt, if_neg hc]
        cases hcs : splitAt sep cs with
        | nil => exact absurd hcs (splitAt_ne_nil sep cs)
        | cons first others => simp [hc]

-- ==================================================================== travel

namespace Event

/-- The envelopes that an event is found in on its way. It starts in its own.
From there it is sent in a frame of either format, no larger than lengths are
written for, and read again, or it is taken out and put in a new envelope, as
often as one likes. -/
inductive Carried (e : Event) : Envelope → Prop
  | packed : Carried e (.ofSignal (.event e))
  | sent {env env' : Envelope} (F : WireFormat) (before : Carried e env)
      (sized : (F.encode env).Sized) (decoded : (F.encode env).decode = .ok env') :
      Carried e env'
  | repacked {env : Envelope} {s : Signal} (before : Carried e env)
      (taken : env.toSignal = .ok s) : Carried e (.ofSignal s)

/-- What an envelope still says of an event with this name and path. -/
structure Told (name : String) (path : Pointer) (env : Envelope) : Prop where
  criterion : env.topic.criterion = .events
  action : env.topic.action = some name
  path : env.path = path

section Told

variable {name : String} {path : Pointer} {env : Envelope}

/-- It is an event with this name and path that is taken out. -/
theorem Told.toSignal (h : Told name path env) :
    ∃ e', env.toSignal = .ok (.event e') ∧ e'.name = name ∧ e'.path = path := by
  refine ⟨_, Envelope.toSignal_of_holds (.event h.action h.criterion), ?_, h.path⟩
  exact SignalType.shortName_ofParts _ name (by decide)

theorem told_ofSignal (e : Event) : Told e.name e.path (.ofSignal (.event e)) := ⟨rfl, rfl, rfl⟩

/-- A frame keeps it, though the topic may be read as another one. -/
theorem Told.sent (h : Told name path env) {F : WireFormat} {env' : Envelope}
    (hsized : (F.encode env).Sized) (hdecoded : (F.encode env).decode = .ok env') :
    Told name path env' := by
  have hreads := F.rereads_of_decode (F.fits_of_sized hsized) hdecoded
  obtain ⟨hcriterion, haction⟩ := Topic.ends_of_parse_text hreads.topic
  exact ⟨hcriterion.trans h.criterion, haction.trans h.action, hreads.path.trans h.path⟩

theorem Told.repacked (h : Told name path env) {s : Signal} (htaken : env.toSignal = .ok s) :
    Told name path (.ofSignal s) := by
  obtain ⟨e', he', rfl, rfl⟩ := h.toSignal
  obtain rfl := Except.ok.inj (he'.symm.trans htaken)
  exact told_ofSignal e'

end Told

/-- Wherever an event is found on its way, it has its name and its path. -/
theorem Carried.told {e : Event} {env : Envelope} (h : e.Carried env) : Told e.name e.path env := by
  induction h with
  | packed => exact told_ofSignal e
  | sent F before sized decoded ih => exact ih.sent sized decoded
  | repacked before taken ih => exact ih.repacked taken

end Event

namespace Change

theorem path_of_ofEvent? {e : Event} {c : Change} (h : ofEvent? e = some c) :
    c.path = e.path := by
  obtain ⟨action, -, rfl⟩ := Option.map_eq_some_iff.mp h
  rfl

/-- Whether an event is a change depends on its name. -/
theorem exists_ofEvent?_of_name {e e' : Event} {c : Change} (h : ofEvent? e = some c)
    (hname : e'.name = e.name) : ∃ c', ofEvent? e' = some c' := by
  obtain ⟨action, haction, -⟩ := Option.map_eq_some_iff.mp h
  rw [← hname] at haction
  exact ⟨_, Option.map_eq_some_iff.mpr ⟨action, haction, rfl⟩⟩

/-- An event that is a change is one wherever it is taken out, at the same path. -/
theorem exists_of_carried {e : Event} {env : Envelope} {c : Change}
    (hchange : ofEvent? e = some c) (h : e.Carried env) :
    ∃ e' c', env.toSignal = .ok (.event e') ∧ ofEvent? e' = some c' ∧ c'.path = e.path := by
  obtain ⟨e', htaken, hname, hpath⟩ := h.told.toSignal
  obtain ⟨c', hc'⟩ := exists_ofEvent?_of_name hchange hname
  exact ⟨e', c', htaken, hc', (path_of_ofEvent? hc').trans hpath⟩

theorem isPartial_iff (c : Change) : c.isPartial = true ↔ ¬ c.isFull = true := by
  unfold isPartial
  cases c.isFull <;> simp

end Change

-- ===================================================================== paths

namespace Pointer

/-- There are slashes in the text and nothing else, if anything. -/
def OnlySlashes (s : String) : Prop := ∀ c ∈ s.toList, c = '/'

instance (s : String) : Decidable (OnlySlashes s) :=
  List.decidableBAll (· = '/') s.toList

/-- The path that is read from one text and goes on with others. -/
def walk (start : String) (steps : List String) : Pointer := steps.foldl append (parse start)

theorem ext_segments {p q : Pointer} (h : p.segments = q.segments) : p = q := by
  cases p
  cases q
  cases h
  rfl

/-- Texts with a slash between them are read one after the other. -/
theorem pieces_join (s t : String) : pieces (s ++ "/" ++ t) = pieces s ++ pieces t := by
  have hjoined : (s ++ "/" ++ t).toList = s.toList ++ '/' :: t.toList := by simp
  unfold pieces
  rw [hjoined, Text.splitAt_append_cons, List.filter_append, List.map_append]

theorem pieces_eq_nil_iff (s : String) : pieces s = [] ↔ OnlySlashes s := by
  unfold pieces OnlySlashes
  rw [List.map_eq_nil_iff, List.filter_eq_nil_iff, ← Text.splitAt_empty_iff]
  simp

theorem pieces_text (p : Pointer) : pieces p.text = p.segments :=
  congrArg segments p.parse_text

/-- Going on with a text is reading it behind the text of the path. -/
theorem append_eq_parse (p : Pointer) (s : String) :
    p.append s = parse (p.text ++ "/" ++ s) := by
  apply ext_segments
  show p.segments ++ pieces s = pieces (p.text ++ "/" ++ s)
  rw [pieces_join, pieces_text]

/-- Going on twice is going on with both texts, a slash between them. -/
theorem append_append (p : Pointer) (a b : String) :
    (p.append a).append b = p.append (a ++ "/" ++ b) := by
  apply ext_segments
  show (p.segments ++ pieces a) ++ pieces b = p.segments ++ pieces (a ++ "/" ++ b)
  rw [pieces_join, List.append_assoc]

theorem isRoot_parse_iff (s : String) : (parse s).isRoot = true ↔ OnlySlashes s := by
  rw [← pieces_eq_nil_iff]
  exact List.isEmpty_iff

theorem isRoot_append_iff (p : Pointer) (s : String) :
    (p.append s).isRoot = true ↔ p.isRoot = true ∧ OnlySlashes s := by
  rw [← isRoot_parse_iff]
  simp [isRoot, append]

/-- Steps of slashes alone lead nowhere, and all other steps lead away. -/
theorem isRoot_foldl_append_iff (p : Pointer) (steps : List String) :
    (steps.foldl append p).isRoot = true ↔ p.isRoot = true ∧ ∀ s ∈ steps, OnlySlashes s := by
  induction steps generalizing p with
  | nil => simp
  | cons s steps ih =>
      rw [List.foldl_cons, ih, isRoot_append_iff, List.forall_mem_cons, and_assoc]

theorem isRoot_walk_iff (start : String) (steps : List String) :
    (walk start steps).isRoot = true ↔ ∀ s ∈ start :: steps, OnlySlashes s := by
  unfold walk
  rw [isRoot_foldl_append_iff, isRoot_parse_iff, List.forall_mem_cons]

/-- Paths have a normal form. For every path that is read from a text and goes
on with any others:

- none of its segments is empty or holds a slash;
- it is what its text is read as;
- to go on with a text is to read it behind the text of the path and a slash,
  and to go on twice is to go on once with both texts;
- it is the root if and only if all its texts are made of slashes;
- just then a change at the path is full, and else it is partial;
- an event at the path that is a change is a change at the path wherever it is
  found on its way, through envelopes and frames of both formats. -/
theorem pointers_have_a_normal_form (start : String) (steps : List String) :
    let p := walk start steps
    (∀ s ∈ p.segments, s ≠ "" ∧ '/' ∉ s.toList)
    ∧ parse p.text = p
    ∧ (∀ s, p.append s = parse (p.text ++ "/" ++ s))
    ∧ (∀ a b, (p.append a).append b = p.append (a ++ "/" ++ b))
    ∧ (p.isRoot = true ↔ ∀ s ∈ start :: steps, OnlySlashes s)
    ∧ (∀ c : Change, c.path = p →
      (c.isFull = true ↔ ∀ s ∈ start :: steps, OnlySlashes s)
      ∧ (c.isPartial = true ↔ ¬ ∀ s ∈ start :: steps, OnlySlashes s))
    ∧ ∀ (e : Event) (c : Change), Change.ofEvent? e = some c → e.path = p →
      c.path = p
      ∧ ∀ env, e.Carried env →
        ∃ e' c', env.toSignal = .ok (.event e') ∧ Change.ofEvent? e' = some c'
          ∧ c'.path = p := by
  intro p
  have hroot := isRoot_walk_iff start steps
  refine ⟨p.proper, p.parse_text, p.append_eq_parse, p.append_append, hroot,
    fun c hc => ?_, fun e c hchange he => ?_⟩
  · have hfull : c.isFull = true ↔ ∀ s ∈ start :: steps, OnlySlashes s := by
      unfold Change.isFull
      rw [hc]
      exact hroot
    exact ⟨hfull, c.isPartial_iff.trans (not_congr hfull)⟩
  · rw [← he]
    exact ⟨Change.path_of_ofEvent? hchange, fun env h => Change.exists_of_carried hchange h⟩

/-- Runs of slashes make no difference, wherever they stand. -/
example : walk "//a///b/" ["/", "c//"] = parse "/a/b/c" ∧ OnlySlashes "///" := by decide

end Pointer

end DeviceTwin
