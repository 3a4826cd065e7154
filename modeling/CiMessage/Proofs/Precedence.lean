import CiMessage.Proofs.BooleanWords
import CiMessage.Proofs.ConfigTexts
import CiMessage.Proofs.Decoding
import CiMessage.Proofs.DiskFiles

/-!
# Which layer decides

A configuration is resolved from a file, if there is one, and from the variables of the process, over the defaults. Every
field comes from the highest layer that says something about it, and the first layer that cannot be used is reported: the
file before all overrides, the overrides in their order (`resolve_by_layers`). The layers are the ones that the texts
spell: the overrides by the grammar of words and the white space around a name (`means_iff`), and the file by the members
of its object (`fileLayer_of_carries`).

Only texts count as overrides. A variable of the process is a byte string, and bytes that are no text are passed over like
a variable that is not set (`ofEnvironment_by_texts`), so such an override is ignored and not reported
(`undecodable_override_ignored`).
-/

namespace CiMessage

open Config.Override (Assignment Usable FirstRefused values)

namespace Environment.Raw

/-- The variables of the process set the overrides to these texts. -/
def Assigns (env : Raw) (a : Assignment) : Prop :=
  ∀ o : Config.Override, env.bytes? (Utf8.encode o.key) = (a o).map Utf8.encode

/-- A variable has a value when its bytes are those of a text. -/
theorem get?_eq_some_iff {env : Raw} {name s : String} :
    env.get? name = some s ↔ env.bytes? (Utf8.encode name) = some (Utf8.encode s) := by
  simp only [get?, Option.bind_eq_some_iff, Utf8.decode?_eq_some_iff]
  exact ⟨fun ⟨_, h, he⟩ => he ▸ h, fun h => ⟨_, h, rfl⟩⟩

theorem get?_of_assigns {env : Raw} {a : Assignment} (h : env.Assigns a) :
    (fun o : Config.Override => env.get? o.key) = a := by
  funext o
  cases ho : a o with
  | none => simp [get?, h o, ho]
  | some raw => exact get?_eq_some_iff.2 (by rw [h o, ho]; rfl)

end Environment.Raw

/-- At an optional path of the disk there is a file with an optional text. -/
inductive Disk.Holds (disk : Disk) : Option Path → Option String → Prop
  | nothing : Holds disk none none
  | file {path : Path} {text : String} (h : disk.read path = .ok text.toUTF8) : Holds disk (some path) (some text)

namespace Config

/-! ## Overrides by their spelling -/

/-- A text stands for the name of a workspace when that is plain, and is left of the text without the white space around
it. -/
theorem subdir?_eq_some_iff {raw name : String} :
    Override.subdir? raw = some name ↔ Text.Strips raw name ∧ Workspace.isPlainName name = true := by
  simp only [Override.subdir?, Text.strips_iff, Option.ite_none_right_eq_some, Option.some.injEq]
  constructor
  · rintro ⟨hplain, rfl⟩
    exact ⟨rfl, hplain⟩
  · rintro ⟨rfl, hplain⟩
    exact ⟨hplain, rfl⟩

/-- The texts of overrides mean the values of a layer: the text of a switch spells its boolean, and that of the workspace
is its plain name with white space around it. The layer says nothing of what is not set. -/
structure Override.Means (a : Assignment) (d : Draft) : Prop where
  redirect : Option.Rel Spells (a .redirect) d.redirectEnabled
  verify : Option.Rel Spells (a .verify) d.verifyAfterWrite
  subdir : Option.Rel (fun raw name => Text.Strips raw name ∧ Workspace.isPlainName name = true) (a .subdir)
    d.workspaceSubdir

/-- An optional value is related to what it stands for when it stands for something, or is not there. -/
theorem rel_iff {α β : Type} {f : α → Option β} {r : α → β → Prop} (h : ∀ {x y}, f x = some y ↔ r x y) {x : Option α}
    {y : Option β} : Option.Rel r x y ↔ (∀ a, x = some a → (f a).isSome = true) ∧ y = x.bind f := by
  cases x with
  | none => cases y <;> simp
  | some a =>
    cases y with
    | none => cases hf : f a <;> simp [hf]
    | some b =>
      rw [Option.rel_some_some, ← h, Option.bind_some]
      constructor
      · intro hf
        exact ⟨by rintro _ ⟨⟩; rw [hf]; rfl, hf.symm⟩
      · exact fun hf => hf.2.symm

/-- **The layer of overrides is what their texts mean.** All of them can be used when there is such a layer, and it is the
one of their values. -/
theorem means_iff {a : Assignment} {d : Draft} : Override.Means a d ↔ Usable a ∧ d = values a := by
  obtain ⟨redirect, verify, subdir⟩ := d
  constructor
  · rintro ⟨hr, hv, hs⟩
    obtain ⟨hru, rfl⟩ := (rel_iff boolean?_eq_some_iff).1 hr
    obtain ⟨hvu, rfl⟩ := (rel_iff boolean?_eq_some_iff).1 hv
    obtain ⟨hsu, rfl⟩ := (rel_iff subdir?_eq_some_iff).1 hs
    refine ⟨fun o raw ho => ?_, rfl⟩
    cases o with
    | redirect => exact hru raw ho
    | verify => exact hvu raw ho
    | subdir => exact hsu raw ho
  · rintro ⟨hu, hd⟩
    obtain ⟨rfl, rfl, rfl⟩ := Draft.mk.inj hd
    exact ⟨(rel_iff boolean?_eq_some_iff).2 ⟨hu .redirect, rfl⟩, (rel_iff boolean?_eq_some_iff).2 ⟨hu .verify, rfl⟩,
      (rel_iff subdir?_eq_some_iff).2 ⟨hu .subdir, rfl⟩⟩

/-! ## Overrides of any configuration -/

theorem isPlainName_of_subdir? {raw name : String} (h : Override.subdir? raw = some name) :
    Workspace.isPlainName name = true := by
  simp only [Override.subdir?, Option.ite_none_right_eq_some] at h
  obtain ⟨hplain, ⟨⟩⟩ := h
  exact hplain

/-- With overrides that can be used, the workspace has a plain name when an override names it or it had one before. -/
theorem isPlainName_over_iff {base : Config} {a : Assignment} (h : Usable a) :
    Workspace.isPlainName ((values a).over base).workspaceSubdir = true ↔
      (a .subdir = none → Workspace.isPlainName base.workspaceSubdir = true) := by
  cases hs : a .subdir with
  | none => simp [Draft.over, values, hs]
  | some raw =>
    have hu := h .subdir raw hs
    simp only [Override.accepts] at hu
    obtain ⟨name, hname⟩ := Option.isSome_iff_exists.1 hu
    simp [Draft.over, values, hs, hname, isPlainName_of_subdir? hname]

theorem FirstRefused.not_usable {a : Assignment} {o : Override} {raw : String} (h : FirstRefused a o raw) :
    ¬ Usable a := by
  intro hu
  have := hu o raw h.assigned
  rw [h.refused] at this
  cases this

/-- **Overrides of any configuration succeed** when all of them can be used and the workspace has a plain name then. -/
theorem override_eq_ok_iff {base : Config} {lookup : String → Option String} {a : Assignment}
    (ha : (fun o : Override => lookup o.key) = a) {c : Config} :
    base.override lookup = .ok c ↔
      Usable a ∧ (a .subdir = none → Workspace.isPlainName base.workspaceSubdir = true) ∧ c = (values a).over base := by
  subst ha
  obtain h | ⟨o, raw, h⟩ := Override.usable_or_firstRefused fun o => lookup o.key
  · rw [Override.override_of_usable h, validate_eq_ok_iff, isPlainName_over_iff h]
    exact ⟨fun hc => ⟨h, hc⟩, fun hc => hc.2⟩
  · rw [Override.override_of_firstRefused h]
    exact ⟨fun hc => (nomatch hc), fun hc => absurd hc.1 (FirstRefused.not_usable h)⟩

/-! ## Files -/

theorem load_of_read {disk : Disk} {path : Path} {text : String} (h : disk.read path = .ok text.toUTF8) :
    load disk path = ofJson text := by
  have htext : String.fromUTF8? text.toUTF8 = some text := by
    unfold String.fromUTF8?
    split
    · rfl
    · exact absurd text.isValidUTF8 (by assumption)
  simp only [load, h, ofBytes, htext]

/-- The layer of an optional file. -/
def fileLayer : Option String → Except Json.Error Draft
  | none => .ok .empty
  | some text => listed text

/-- There is no file, or its text is accepted. -/
def FileAccepted (file : Option String) : Prop := ∀ text ∈ file, ∃ c, ofJson text = .ok c

theorem ofJson_eq_ok_iff {text : String} {c : Config} :
    ofJson text = .ok c ↔
      Workspace.isPlainName c.workspaceSubdir = true ∧ ∃ d, listed text = .ok d ∧ c = d.over default := by
  rw [ofJson_eq]
  cases listed text with
  | error e => simp
  | ok d =>
    simp only [validate_eq_ok_iff, Except.ok.injEq, exists_eq_left']
    constructor
    · rintro ⟨hplain, rfl⟩
      exact ⟨hplain, rfl⟩
    · rintro ⟨hplain, rfl⟩
      exact ⟨hplain, rfl⟩

/-- **The layer of an object in a file** has the fields that its members carry, however they are spelled. The file is
accepted when the workspace that results has a plain name. -/
theorem fileLayer_of_carries {doc : Json.Document} {ms : List (String × Json.Spelling)} {c : Config}
    (h : doc.value.HasMembers ms) (hcarries : ∀ m ∈ ms, c.Carries m.1 m.2)
    (honce : ∀ key ∈ fieldKeys, (ms.map Prod.fst).count key ≤ 1) :
    let d := c.fields (ms.map Prod.fst)
    fileLayer (some doc.text) = .ok d ∧
      (FileAccepted (some doc.text) ↔ Workspace.isPlainName (d.over default).workspaceSubdir = true) := by
  intro d
  have hlisted : listed doc.text = .ok d := listed_of_carries h hcarries honce
  refine ⟨hlisted, ?_⟩
  constructor
  · intro hok
    obtain ⟨c', hc'⟩ := hok doc.text rfl
    obtain ⟨hplain, d', hd', rfl⟩ := ofJson_eq_ok_iff.1 hc'
    cases hlisted.symm.trans hd'
    exact hplain
  · rintro hplain _ ⟨⟩
    exact ⟨_, ofJson_eq_ok_iff.2 ⟨hplain, d, hlisted, rfl⟩⟩

/-- Under the overrides there is the layer of the file, over the defaults. -/
theorem base_eq_ok_iff {disk : Disk} {path : Option Path} {file : Option String} (hfile : disk.Holds path file)
    {c : Config} :
    base disk path = .ok c ↔ FileAccepted file ∧ ∃ d, fileLayer file = .ok d ∧ c = d.over default := by
  cases hfile with
  | nothing =>
    simp only [base, FileAccepted, fileLayer, Except.ok.injEq, exists_eq_left']
    constructor
    · rintro rfl
      exact ⟨fun _ h => (nomatch h), rfl⟩
    · rintro ⟨-, rfl⟩
      rfl
  | file hread =>
    rename_i p text
    have hmap : base disk (some p) = .ok c ↔ ofJson text = .ok c := by
      rw [base, load_of_read hread]
      cases ofJson text <;> simp [Except.mapError]
    rw [hmap, ofJson_eq_ok_iff]
    constructor
    · rintro ⟨hplain, d, hd, rfl⟩
      refine ⟨?_, d, hd, rfl⟩
      rintro t ⟨⟩
      exact ⟨_, ofJson_eq_ok_iff.2 ⟨hplain, d, hd, rfl⟩⟩
    · rintro ⟨hok, d, hd, rfl⟩
      obtain ⟨c, hc⟩ := hok text rfl
      obtain ⟨hplain, d', hd', rfl⟩ := ofJson_eq_ok_iff.1 hc
      cases hd.symm.trans hd'
      exact ⟨hplain, d, hd, rfl⟩

/-- What is under the overrides is accepted when it is there. -/
theorem isPlainName_of_base {disk : Disk} {path : Option Path} {c : Config} (h : base disk path = .ok c) :
    Workspace.isPlainName c.workspaceSubdir = true := by
  cases path with
  | none =>
    cases h
    decide
  | some p =>
    cases hl : load disk p with
    | error e =>
      rw [base, hl] at h
      cases h
    | ok c' =>
      rw [base, hl] at h
      cases h
      exact isPlainName_of_load hl

/-! ## All layers -/

section Layers

variable {disk : Disk} {path : Option Path} {env : Environment.Raw} {file : Option String} {a : Assignment}

/-- A file that is not accepted is reported whatever the overrides are. -/
theorem resolve_of_refused_file (hfile : disk.Holds path file) {text : String} (ht : text ∈ file) {e : ConfigError}
    (he : ofJson text = .error e) : ∃ p ∈ path, resolve disk path env = .error (.file p, e) := by
  cases hfile with
  | nothing => cases ht
  | file hread =>
    cases ht
    refine ⟨_, rfl, ?_⟩
    simp only [resolve, base, load_of_read hread, he]
    rfl

theorem resolve_of_base {c : Config} (h : base disk path = .ok c) :
    resolve disk path env = (c.override env.get?).mapError fun e => (.overrides, e) := by
  rw [resolve, h]

/-- A file that is accepted lists fields, which are the layer under the overrides. -/
theorem exists_base_of_accepted (hfile : disk.Holds path file) (hok : FileAccepted file) :
    ∃ c, base disk path = .ok c := by
  have hlayer : ∃ d, fileLayer file = .ok d := by
    cases file with
    | none => exact ⟨_, rfl⟩
    | some text =>
      obtain ⟨c, hc⟩ := hok text rfl
      obtain ⟨-, d, hd, -⟩ := ofJson_eq_ok_iff.1 hc
      exact ⟨d, hd⟩
  obtain ⟨d, hd⟩ := hlayer
  exact ⟨_, (base_eq_ok_iff hfile).2 ⟨hok, d, hd, rfl⟩⟩

/-- A file that is accepted leaves the report to the first override that cannot be used. -/
theorem resolve_of_firstRefused (hfile : disk.Holds path file) (henv : env.Assigns a) (hok : FileAccepted file)
    {o : Override} {raw : String} (h : FirstRefused a o raw) :
    resolve disk path env = .error (.overrides, .invalidValue o.key raw) := by
  obtain ⟨c, hc⟩ := exists_base_of_accepted hfile hok
  rw [← Environment.Raw.get?_of_assigns henv] at h
  rw [resolve_of_base hc, Override.override_of_firstRefused h]
  rfl

/-- **A configuration is resolved** when no layer is refused, and then each field comes from the highest layer that says
something about it. -/
theorem resolve_eq_ok_iff (hfile : disk.Holds path file) (henv : env.Assigns a) {c : Config} :
    resolve disk path env = .ok c ↔
      FileAccepted file ∧ Usable a ∧ ∃ d, fileLayer file = .ok d ∧ c = (values a).over (d.over default) := by
  have hover : ∀ {b : Config}, base disk path = .ok b →
      (resolve disk path env = .ok c ↔ Usable a ∧ c = (values a).over b) := by
    intro b hb
    have hmap : resolve disk path env = .ok c ↔ b.override env.get? = .ok c := by
      rw [resolve_of_base hb]
      cases b.override env.get? <;> simp [Except.mapError]
    rw [hmap, override_eq_ok_iff (Environment.Raw.get?_of_assigns henv)]
    have hplain := isPlainName_of_base hb
    exact ⟨fun h => ⟨h.1, h.2.2⟩, fun h => ⟨h.1, fun _ => hplain, h.2⟩⟩
  constructor
  · intro h
    cases hb : base disk path with
    | error e =>
      rw [resolve, hb] at h
      cases h
    | ok b =>
      obtain ⟨hu, rfl⟩ := (hover hb).1 h
      obtain ⟨hok, d, hd, rfl⟩ := (base_eq_ok_iff hfile).1 hb
      exact ⟨hok, hu, d, hd, rfl⟩
  · rintro ⟨hok, hu, d, hd, rfl⟩
    exact (hover ((base_eq_ok_iff hfile).2 ⟨hok, d, hd, rfl⟩)).2 ⟨hu, rfl⟩

end Layers

/-- **Every field comes from the highest layer that says something about it,** and what is reported is the first layer that
cannot be used: the file before the overrides, the overrides in their order, and a configuration below them that names no
workspace only when no override names one. -/
theorem resolve_by_layers :
    (∀ (disk : Disk) (path : Option Path) (env : Environment.Raw) (file : Option String) (a : Assignment),
      disk.Holds path file → env.Assigns a →
        (∀ c, resolve disk path env = .ok c ↔
          FileAccepted file ∧ Usable a ∧ ∃ d, fileLayer file = .ok d ∧ c = (values a).over (d.over default)) ∧
        (∀ text ∈ file, ∀ e, ofJson text = .error e →
          ∃ p ∈ path, resolve disk path env = .error (.file p, e)) ∧
        (FileAccepted file → ∀ o raw, FirstRefused a o raw →
          resolve disk path env = .error (.overrides, .invalidValue o.key raw))) ∧
    ∀ (base : Config) (lookup : String → Option String),
      let a : Assignment := fun o => lookup o.key
      (∀ c, base.override lookup = .ok c ↔
        Usable a ∧ (a .subdir = none → Workspace.isPlainName base.workspaceSubdir = true) ∧ c = (values a).over base) ∧
      (∀ o raw, FirstRefused a o raw → base.override lookup = .error (.invalidValue o.key raw)) ∧
      (Usable a → a .subdir = none → Workspace.isPlainName base.workspaceSubdir = false →
        base.override lookup = .error (.invalidValue subdirKey base.workspaceSubdir)) := by
  constructor
  · intro disk path env file a hfile henv
    exact ⟨fun c => resolve_eq_ok_iff hfile henv, fun text ht e => resolve_of_refused_file hfile ht,
      fun hok o raw => resolve_of_firstRefused hfile henv hok⟩
  · intro base lookup a
    refine ⟨fun c => override_eq_ok_iff rfl, fun o raw => Override.override_of_firstRefused, fun hu hs hn => ?_⟩
    have hbelow : ((values a).over base).workspaceSubdir = base.workspaceSubdir := by
      simp [Draft.over, values, hs]
    rw [Override.override_of_usable hu, validate, hbelow, hn]
    rfl

/-- An object that turns verification off and names the workspace. -/
def layeredDocument : Json.Document where
  before := .none
  value := .object
    (.cons ⟨.none, Json.Glyph.plains "verify_after_write", .none⟩ .space (.boolean false) .none
      (.one ⟨.none, Json.Glyph.plains "workspace_subdir", .none⟩ .space (.string (Json.Glyph.plains "out")) .none))
  after := .none

/-- A file that turns verification off and names the workspace. Overrides turn redirection off and name another workspace,
or they turn verification on again, and then the defaults have redirection and the file has the workspace. Of two overrides
that cannot be used the first one is reported. -/
theorem resolve_by_layers_of_three :
    let text := "\x7b\"verify_after_write\": false,\"workspace_subdir\": \"out\"\x7d"
    let path : Path := .ofText "/c.json"
    let disk := (Disk.ofWorkingDirectory []).put [Utf8.encode "c.json"] (.file text.toUTF8)
    let env (vars : List (Override × String)) : Environment.Raw :=
      ⟨vars.map fun v => (Utf8.encode v.1.key, Utf8.encode v.2)⟩
    disk.Holds (some path) (some text) ∧
      resolve disk (some path) (env [(.redirect, "Off"), (.subdir, " ws ")]) = .ok ⟨false, false, "ws"⟩ ∧
      resolve disk (some path) (env [(.verify, "\tYES")]) = .ok ⟨true, true, "out"⟩ ∧
      resolve disk (some path) (env [(.subdir, "../up"), (.verify, " maybe")]) =
        .error (.overrides, .invalidValue "CIENV_VERIFY_WRITE" " maybe") := by
  intro text path disk env
  have hfound : disk.find .followed (.ofText "/c.json") = .ok (.taken [Utf8.encode "c.json"] (.file text.toUTF8)) := by
    have hnames : Disk.names (.ofText "/c.json") = [Utf8.encode "c.json"] := by decide
    rw [Disk.find_eq_walk (by decide) (by decide) (by decide), hnames]
    exact Disk.walk_last (by decide) (by decide) (by decide) rfl fun h => h
  have hfile : disk.Holds (some path) (some text) := .file (by rw [Disk.read, hfound])
  have htext : layeredDocument.text = text := by decide
  let members : List (String × Json.Spelling) :=
    [("verify_after_write", .boolean false), ("workspace_subdir", .string (Json.Glyph.plains "out"))]
  have hmembers : layeredDocument.value.HasMembers members := rfl
  have hcarries : ∀ m ∈ members, Carries ⟨true, false, "out"⟩ m.1 m.2 := by
    intro m hm
    simp only [members, List.mem_cons, List.not_mem_nil, or_false] at hm
    obtain rfl | rfl := hm
    · exact ⟨fun h => absurd h (by decide), fun _ => rfl, fun h => absurd h (by decide)⟩
    · exact ⟨fun h => absurd h (by decide), fun h => absurd h (by decide), fun _ => rfl⟩
  have hlayer := fileLayer_of_carries hmembers hcarries (by decide)
  rw [htext] at hlayer
  have hlisted : fileLayer (some text) = .ok ⟨none, some false, some "out"⟩ := hlayer.1
  have hok : FileAccepted (some text) := hlayer.2.2 (by decide)
  have hlayers : ∀ {vars a d}, (env vars).Assigns a → Override.Means a d →
      resolve disk (some path) (env vars) = .ok (d.over ⟨true, false, "out"⟩) := by
    intro vars a d henv hmeans
    obtain ⟨husable, rfl⟩ := means_iff.1 hmeans
    exact ((resolve_by_layers.1 _ _ _ _ _ hfile henv).1 _).2 ⟨hok, husable, _, hlisted, rfl⟩
  have hoff : Spells "Off" false := boolean?_eq_some_iff.1 (by decide +kernel)
  have hyes : Spells "\tYES" true := boolean?_eq_some_iff.1 (by decide +kernel)
  refine ⟨hfile, ?_, ?_, ?_⟩
  · let a : Assignment := fun o => if o = .redirect then some "Off" else if o = .subdir then some " ws " else none
    have henv : (env [(.redirect, "Off"), (.subdir, " ws ")]).Assigns a := by
      intro o
      cases o <;> decide +kernel
    have hmeans : Override.Means a ⟨some false, none, some "ws"⟩ :=
      ⟨.some hoff, .none, .some ⟨Text.strips_iff.2 (by decide), by decide⟩⟩
    exact hlayers henv hmeans
  · let a : Assignment := fun o => if o = .verify then some "\tYES" else none
    have henv : (env [(.verify, "\tYES")]).Assigns a := by
      intro o
      cases o <;> decide +kernel
    have hmeans : Override.Means a ⟨none, some true, none⟩ := ⟨.none, .some hyes, .none⟩
    exact hlayers henv hmeans
  · let a : Assignment := fun o => if o = .subdir then some "../up" else if o = .verify then some " maybe" else none
    have henv : (env [(.subdir, "../up"), (.verify, " maybe")]).Assigns a := by
      intro o
      cases o <;> decide +kernel
    have hfirst : FirstRefused a .verify " maybe" := by
      refine ⟨rfl, by decide +kernel, fun o ho raw hraw => ?_⟩
      cases List.mem_singleton.1 ho
      cases hraw
    exact (resolve_by_layers.1 _ _ _ _ _ hfile henv).2.2 hok _ _ hfirst

/-! ## Overrides of the process -/

/-- **Only texts override.** The overrides of the process are applied as the texts that its variables are set to: the first
one that cannot be used is reported, and if there is none, the configuration has the values of all of them. -/
theorem ofEnvironment_by_texts (env : Environment.Raw) :
    let a : Assignment := fun o => env.get? o.key
    (∀ o raw, a o = some raw ↔ env.bytes? (Utf8.encode o.key) = some (Utf8.encode raw)) ∧
      (∀ e, ofEnvironment env = .error e ↔ ∃ o raw, FirstRefused a o raw ∧ e = .invalidValue o.key raw) ∧
      ∀ c, ofEnvironment env = .ok c ↔ Usable a ∧ c = (values a).over default := by
  intro a
  have hplain : Workspace.isPlainName default.workspaceSubdir = true := by decide
  have hok : ∀ c, ofEnvironment env = .ok c ↔ Usable a ∧ c = (values a).over default := by
    intro c
    rw [ofEnvironment, override_eq_ok_iff (a := a) rfl]
    exact ⟨fun h => ⟨h.1, h.2.2⟩, fun h => ⟨h.1, fun _ => hplain, h.2⟩⟩
  refine ⟨fun o raw => Environment.Raw.get?_eq_some_iff, fun e => ⟨fun he => ?_, ?_⟩, hok⟩
  · obtain hu | ⟨o, raw, hr⟩ := Override.usable_or_firstRefused a
    · rw [(hok _).2 ⟨hu, rfl⟩] at he
      cases he
    · rw [ofEnvironment, Override.override_of_firstRefused hr] at he
      cases he
      exact ⟨o, raw, hr, rfl⟩
  · rintro ⟨o, raw, hr, rfl⟩
    exact Override.override_of_firstRefused hr

/-- An override that is set to bytes which are no text is not reported, and redirection stays on. -/
theorem undecodable_override_ignored :
    let bytes : List UInt8 := [0x6F, 0x66, 0x66, 0xFF]
    let env : Environment.Raw := ⟨[(Utf8.encode Override.redirect.key, bytes)]⟩
    env.bytes? (Utf8.encode Override.redirect.key) = some bytes ∧ (∀ raw, bytes ≠ Utf8.encode raw) ∧
      ofEnvironment env = .ok default := by
  intro bytes env
  refine ⟨by decide +kernel, fun raw h => ?_, by decide +kernel⟩
  have hnone : Utf8.decode? bytes = none := by decide
  rw [Utf8.decode?_eq_some_iff.2 h] at hnone
  cases hnone

end Config

end CiMessage
