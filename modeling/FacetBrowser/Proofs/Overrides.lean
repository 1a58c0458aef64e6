import FacetBrowser.Proofs.Reading
import FacetBrowser.Settings.Override
import Mathlib.Data.List.Induction
import Mathlib.Data.List.Nodup

namespace FacetBrowser

namespace Outline

theorem hasPlace_iff (template : List Char) :
    hasPlace template = true ↔ "\x7bid\x7d".toList <:+: template := by
  induction template with
  | nil => decide
  | cons c cs ih =>
    rw [List.infix_cons_iff, ← ih]
    constructor
    · intro h
      rw [hasPlace.eq_def] at h
      split at h
      · rename_i rest heq
        exact .inl ⟨rest, heq.symm⟩
      · rename_i heq
        cases heq
        exact .inr h
      · cases h
    · rintro (⟨rest, hrest⟩ | h)
      · rw [← hrest]
        rfl
      · rw [hasPlace.eq_def]
        split
        · rfl
        · rename_i heq
          cases heq
          exact h
        · rename_i heq
          cases heq

end Outline

namespace Settings

structure Usable (s : Settings) : Prop where
  baseUrl : ∃ c ∈ s.service.baseUrl.toList, Text.isBlank c = false
  sampleSize : 1 ≤ s.service.sampleSize.toNat
  groupPageSize : 1 ≤ s.service.groupPageSize.toNat
  timeoutSecs : 1 ≤ s.service.timeoutSecs.toNat
  itemLink : "\x7bid\x7d".toList <:+: s.itemLink.toList

theorem one_le_toNat_iff {n : UInt64} : 1 ≤ n.toNat ↔ ¬n = 0 := by
  rw [Nat.one_le_iff_ne_zero, Ne, ← UInt64.toNat_inj]
  rfl

theorem ite_some_eq_none_iff {α : Type} {p : Prop} [Decidable p] {x : α} {rest : Option α} :
    (if p then some x else rest) = none ↔ ¬p ∧ rest = none := by
  split <;> simp [*]

theorem fault?_eq_none_iff {s : Settings} : s.fault? = none ↔ s.Usable := by
  have hplace := Outline.hasPlace_iff s.itemLink.toList
  have hblank := Text.isAllBlank_eq_false s.service.baseUrl
  rw [fault?]
  simp only [ite_some_eq_none_iff, Bool.not_eq_true, Bool.not_eq_false', and_true, hplace, hblank,
    ← one_le_toNat_iff]
  exact ⟨fun ⟨hurl, hsample, hpage, htimeout, hlink⟩ => ⟨hurl, hsample, hpage, htimeout, hlink⟩,
    fun ⟨hurl, hsample, hpage, htimeout, hlink⟩ => ⟨hurl, hsample, hpage, htimeout, hlink⟩⟩

inductive Variable where
  | baseUrl
  | wireFormat
  | sampleSize
  | groupPageSize
  | timeoutSecs
  deriving DecidableEq

namespace Variable

def parsed : List Variable := [.wireFormat, .sampleSize, .groupPageSize, .timeoutSecs]

def order : List Variable := .baseUrl :: parsed

def key : Variable → String
  | .baseUrl => baseUrlKey
  | .wireFormat => SettingsFault.wireFormatKey
  | .sampleSize => sampleSizeKey
  | .groupPageSize => groupPageSizeKey
  | .timeoutSecs => timeoutSecsKey

def Holds (raw : String) (service : Service) : Variable → Prop
  | .baseUrl => service.baseUrl = raw
  | .wireFormat => WireFormat.CalledIn raw service.wireFormat
  | .sampleSize => Text.NumberIn raw service.sampleSize
  | .groupPageSize => Text.NumberIn raw service.groupPageSize
  | .timeoutSecs => Text.NumberIn raw service.timeoutSecs

def Keeps (a b : Service) : Variable → Prop
  | .baseUrl => b.baseUrl = a.baseUrl
  | .wireFormat => b.wireFormat = a.wireFormat
  | .sampleSize => b.sampleSize = a.sampleSize
  | .groupPageSize => b.groupPageSize = a.groupPageSize
  | .timeoutSecs => b.timeoutSecs = a.timeoutSecs

def Readable (v : Variable) (raw : String) : Prop := ∃ service, v.Holds raw service

def BlamedBy (v : Variable) (fault : SettingsFault) : Prop :=
  ∃ reason, fault.message = "invalid " ++ v.key ++ ": " ++ reason

structure Applied (env : Environment) (a b : Service) (v : Variable) : Prop where
  given : ∀ raw, env v.key = some raw → v.Holds raw b
  absent : env v.key = none → v.Keeps a b

variable {v : Variable} {a b c : Service} {raw : String}

theorem Keeps.refl (v : Variable) (a : Service) : v.Keeps a a := by
  cases v <;> exact rfl

theorem Keeps.symm (h : v.Keeps a b) : v.Keeps b a := by
  cases v <;> exact Eq.symm h

theorem Keeps.trans (hab : v.Keeps a b) (hbc : v.Keeps b c) : v.Keeps a c := by
  cases v <;> exact Eq.trans hbc hab

theorem eq_of_keeps (h : ∀ v, Keeps a b v) : a = b := by
  cases a
  cases b
  cases h .baseUrl
  cases h .wireFormat
  cases h .sampleSize
  cases h .groupPageSize
  cases h .timeoutSecs
  rfl

theorem Holds.keeps (h : v.Holds raw a) (hab : v.Keeps a b) : v.Holds raw b := by
  cases v with
  | baseUrl => exact Eq.trans hab h
  | wireFormat => exact (congrArg (WireFormat.CalledIn raw) hab).mpr h
  | sampleSize => exact (congrArg (Text.NumberIn raw) hab).mpr h
  | groupPageSize => exact (congrArg (Text.NumberIn raw) hab).mpr h
  | timeoutSecs => exact (congrArg (Text.NumberIn raw) hab).mpr h

theorem Holds.unique (ha : v.Holds raw a) (hb : v.Holds raw b) : v.Keeps a b := by
  cases v with
  | baseUrl => exact Eq.trans hb (Eq.symm ha)
  | wireFormat => exact hb.unique ha
  | sampleSize => exact hb.unique ha
  | groupPageSize => exact hb.unique ha
  | timeoutSecs => exact hb.unique ha

variable {env : Environment}

theorem Applied.keeps (h : v.Applied env a b) (hbc : v.Keeps b c) : v.Applied env a c :=
  ⟨fun raw hraw => (h.given raw hraw).keeps hbc, fun hnone => (h.absent hnone).trans hbc⟩

theorem Applied.of_keeps (hab : v.Keeps a b) (h : v.Applied env b c) : v.Applied env a c :=
  ⟨h.given, fun hnone => hab.trans (h.absent hnone)⟩

theorem Applied.again (h : v.Applied env a b) : v.Applied env b b :=
  ⟨h.given, fun _ => .refl v b⟩

theorem Applied.unique (hb : v.Applied env a b) (hc : v.Applied env a c) : v.Keeps b c := by
  cases hraw : env v.key with
  | none => exact (hb.absent hraw).symm.trans (hc.absent hraw)
  | some raw => exact (hb.given raw hraw).unique (hc.given raw hraw)

end Variable

structure Taken (env : Environment) (vs : List Variable) (s t : Settings) : Prop where
  applied : ∀ v ∈ vs, v.Applied env s.service t.service
  kept : ∀ v ∉ vs, v.Keeps s.service t.service
  attributes : t.attributes = s.attributes
  itemLink : t.itemLink = s.itemLink

variable {env : Environment} {vs ws : List Variable} {s t u : Settings} {v : Variable}

theorem taken_nil (env : Environment) (s : Settings) : Taken env [] s s :=
  ⟨fun _ hv => absurd hv List.not_mem_nil, fun v _ => .refl v s.service, rfl, rfl⟩

theorem Taken.append (hs : Taken env vs s t) (ht : Taken env ws t u) (hdisjoint : vs.Disjoint ws) :
    Taken env (vs ++ ws) s u := by
  refine ⟨fun v hv => ?_, fun v hv => ?_, ht.attributes.trans hs.attributes,
    ht.itemLink.trans hs.itemLink⟩
  · rcases List.mem_append.mp hv with hv | hv
    · exact (hs.applied v hv).keeps (ht.kept v fun hw => hdisjoint hv hw)
    · exact .of_keeps (hs.kept v fun hw => hdisjoint hw hv) (ht.applied v hv)
  · obtain ⟨hvs, hws⟩ := not_or.mp fun h => hv (List.mem_append.mpr h)
    exact (hs.kept v hvs).trans (ht.kept v hws)

theorem Taken.unique (ht : Taken env vs s t) (hu : Taken env vs s u) : t = u := by
  have hservice : t.service = u.service := Variable.eq_of_keeps fun v => by
    by_cases hv : v ∈ vs
    · exact (ht.applied v hv).unique (hu.applied v hv)
    · exact (ht.kept v hv).symm.trans (hu.kept v hv)
  have hattributes : t.attributes = u.attributes := ht.attributes.trans hu.attributes.symm
  have hlink : t.itemLink = u.itemLink := ht.itemLink.trans hu.itemLink.symm
  cases t
  cases u
  cases hservice
  cases hattributes
  cases hlink
  rfl

theorem Taken.again (h : Taken env vs s t) : Taken env vs t t :=
  ⟨fun v hv => (h.applied v hv).again, fun v _ => .refl v t.service, rfl, rfl⟩

inductive Outcome (env : Environment) (vs : List Variable) (s : Settings) :
    Settings × Option SettingsFault → Prop
  | taken {t : Settings} (h : Taken env vs s t) : Outcome env vs s (t, none)
  | refused {before after : List Variable} {v : Variable} {t : Settings} {raw : String}
      {fault : SettingsFault} (hvs : vs = before ++ v :: after) (h : Taken env before s t)
      (hraw : env v.key = some raw) (hbad : ¬v.Readable raw) (hfault : v.BlamedBy fault) :
      Outcome env vs s (t, some fault)

theorem Outcome.andThen {r : Settings × Option SettingsFault}
    {next : Settings → Settings × Option SettingsFault} (h : Outcome env vs s r)
    (hnext : ∀ t, Outcome env ws t (next t)) (hdisjoint : vs.Disjoint ws) :
    Outcome env (vs ++ ws) s (andThen r next) := by
  cases h with
  | @taken t ht =>
    have hu := hnext t
    rw [Settings.andThen]
    generalize next t = r at hu
    cases hu with
    | taken hu => exact .taken (ht.append hu hdisjoint)
    | refused hws hu hraw hbad hfault =>
      subst hws
      exact .refused (List.append_assoc _ _ _).symm
        (ht.append hu (List.disjoint_of_subset_right (List.subset_append_left _ _) hdisjoint))
        hraw hbad hfault
  | refused hvs ht hraw hbad hfault =>
    subst hvs
    exact .refused (by rw [List.append_assoc, List.cons_append]) ht hraw hbad hfault

theorem outcome_overrideWith {α : Type} {key : String} {read : String → Except SettingsFault α}
    {set : Service → α → Service} (env : Environment) (v : Variable) (s : Settings)
    (hkey : v.key = key)
    (hholds : ∀ raw service x, read raw = .ok x → v.Holds raw (set service x))
    (hreads : ∀ raw service, v.Holds raw service → ∃ x, read raw = .ok x)
    (hset : ∀ w ≠ v, ∀ service x, w.Keeps service (set service x))
    (hfault : ∀ raw fault, read raw = .error fault → v.BlamedBy fault) :
    Outcome env [v] s (overrideWith env key read set s) := by
  subst hkey
  rw [overrideWith]
  split
  · rename_i hraw
    refine .taken ⟨fun w hw => ?_, fun w _ => .refl w s.service, rfl, rfl⟩
    obtain rfl := List.mem_singleton.mp hw
    exact ⟨fun raw hgiven => (nomatch hraw.symm.trans hgiven), fun _ => .refl w s.service⟩
  · rename_i raw hraw
    split
    · rename_i x hx
      refine .taken ⟨fun w hw => ?_, fun w hw => ?_, rfl, rfl⟩
      · obtain rfl := List.mem_singleton.mp hw
        refine ⟨fun text hgiven => ?_, fun hnone => nomatch hraw.symm.trans hnone⟩
        cases hraw.symm.trans hgiven
        exact hholds raw s.service x hx
      · exact hset w (fun h => hw (List.mem_singleton.mpr h)) s.service x
    · rename_i fault hx
      have hfirst : [v] = [] ++ v :: [] := rfl
      refine .refused hfirst (taken_nil env s) hraw ?_ (hfault raw fault hx)
      rintro ⟨service, hservice⟩
      obtain ⟨x, hok⟩ := hreads raw service hservice
      rw [hx] at hok
      cases hok

theorem readNumber_eq_ok_iff {key raw : String} {n : UInt64} :
    readNumber key raw = .ok n ↔ Text.NumberIn raw n := by
  rw [readNumber, ← Text.readNumeral_trim_iff]
  cases Text.readNumeral (Text.trim raw) <;> simp [Except.mapError]

theorem readNumber_error {key raw : String} {fault : SettingsFault}
    (h : readNumber key raw = .error fault) :
    ∃ reason, fault.message = "invalid " ++ key ++ ": " ++ reason := by
  rw [readNumber] at h
  cases hread : Text.readNumeral (Text.trim raw) with
  | ok n =>
    rw [hread] at h
    cases h
  | error reason =>
    rw [hread] at h
    cases h
    exact ⟨Text.quoted raw ++ ": " ++ reason.message, by
      rw [← String.append_assoc, ← String.append_assoc]
      rfl⟩

theorem readWireFormat_eq_ok_iff {raw : String} {format : WireFormat} :
    readWireFormat raw = .ok format ↔ WireFormat.CalledIn raw format := by
  rw [readWireFormat, ← WireFormat.ofText_iff]
  cases WireFormat.ofText raw <;> simp [Except.mapError]

theorem readWireFormat_error {raw : String} {fault : SettingsFault}
    (h : readWireFormat raw = .error fault) : Variable.wireFormat.BlamedBy fault := by
  rw [readWireFormat] at h
  cases hread : WireFormat.ofText raw with
  | ok format =>
    rw [hread] at h
    cases h
  | error error =>
    rw [hread] at h
    cases h
    exact ⟨error.message, rfl⟩

theorem outcome_number {key : String} {get : Service → UInt64} {set : Service → UInt64 → Service}
    (env : Environment) (v : Variable) (s : Settings) (hkey : v.key = key)
    (hholds : ∀ raw service, v.Holds raw service ↔ Text.NumberIn raw (get service))
    (hget : ∀ service x, get (set service x) = x)
    (hset : ∀ w ≠ v, ∀ service x, w.Keeps service (set service x)) :
    Outcome env [v] s (overrideWith env key (readNumber key) set s) := by
  refine outcome_overrideWith env v s hkey ?_ ?_ hset ?_
  · intro raw service x hx
    rw [hholds, hget]
    exact readNumber_eq_ok_iff.mp hx
  · exact fun raw service h => ⟨get service, readNumber_eq_ok_iff.mpr ((hholds raw service).mp h)⟩
  · rintro raw fault h
    rw [Variable.BlamedBy, hkey]
    exact readNumber_error h

def step (env : Environment) : Variable → Settings → Settings × Option SettingsFault
  | .baseUrl => overrideWith env baseUrlKey .ok fun service x => { service with baseUrl := x }
  | .wireFormat => overrideWith env SettingsFault.wireFormatKey readWireFormat
      fun service x => { service with wireFormat := x }
  | .sampleSize => overrideWith env sampleSizeKey (readNumber sampleSizeKey)
      fun service x => { service with sampleSize := x }
  | .groupPageSize => overrideWith env groupPageSizeKey (readNumber groupPageSizeKey)
      fun service x => { service with groupPageSize := x }
  | .timeoutSecs => overrideWith env timeoutSecsKey (readNumber timeoutSecsKey)
      fun service x => { service with timeoutSecs := x }

theorem outcome_step (env : Environment) (v : Variable) (s : Settings) :
    Outcome env [v] s (step env v s) := by
  cases v with
  | baseUrl =>
    rw [step]
    refine outcome_overrideWith env .baseUrl s ?_ ?_ (fun raw _ _ => ⟨raw, rfl⟩) ?_ ?_
    · rfl
    · intro raw service x hx
      cases hx
      rfl
    · intro w hw service x
      cases w <;> first | rfl | exact absurd rfl hw
    · intro raw fault h
      cases h
  | wireFormat =>
    rw [step]
    refine outcome_overrideWith env .wireFormat s ?_ ?_ ?_ ?_ ?_
    · rfl
    · exact fun raw service x hx => readWireFormat_eq_ok_iff.mp hx
    · exact fun raw service h => ⟨service.wireFormat, readWireFormat_eq_ok_iff.mpr h⟩
    · intro w hw service x
      cases w <;> first | rfl | exact absurd rfl hw
    · exact fun raw fault h => readWireFormat_error h
  | sampleSize =>
    rw [step]
    refine outcome_number env .sampleSize s ?_ (fun _ _ => Iff.rfl) (fun _ _ => rfl) ?_
    · rfl
    · intro w hw service x
      cases w <;> first | rfl | exact absurd rfl hw
  | groupPageSize =>
    rw [step]
    refine outcome_number env .groupPageSize s ?_ (fun _ _ => Iff.rfl) (fun _ _ => rfl) ?_
    · rfl
    · intro w hw service x
      cases w <;> first | rfl | exact absurd rfl hw
  | timeoutSecs =>
    rw [step]
    refine outcome_number env .timeoutSecs s ?_ (fun _ _ => Iff.rfl) (fun _ _ => rfl) ?_
    · rfl
    · intro w hw service x
      cases w <;> first | rfl | exact absurd rfl hw

def take (env : Environment) (vs : List Variable) (s : Settings) :
    Settings × Option SettingsFault :=
  vs.foldl (fun r v => andThen r (step env v)) (s, none)

theorem outcome_take (env : Environment) (s : Settings) (hvs : vs.Nodup) :
    Outcome env vs s (take env vs s) := by
  induction vs using List.reverseRecOn with
  | nil => exact .taken (taken_nil env s)
  | append_singleton vs v ih =>
    rw [take, List.foldl_concat]
    exact (ih hvs.of_append_left).andThen (fun t => outcome_step env v t)
      (List.disjoint_of_nodup_append hvs)

theorem override_eq (env : Environment) (s : Settings) :
    override env s = andThen (take env Variable.order s) fun t => (t, t.fault?) :=
  rfl

def Legible (env : Environment) : Prop :=
  ∀ v : Variable, ∀ raw, env v.key = some raw → v.Readable raw

theorem Variable.nodup_order : order.Nodup := by
  decide

theorem Variable.mem_order (v : Variable) : v ∈ order := by
  cases v <;> decide

theorem Taken.legible (h : Taken env Variable.order s t) : Legible env := fun v _ hraw =>
  ⟨t.service, (h.applied v v.mem_order).given _ hraw⟩

theorem override_of_legible (s : Settings) (h : Legible env) :
    ∃ t, Taken env Variable.order s t ∧ override env s = (t, t.fault?) := by
  have hread := outcome_take env s Variable.nodup_order
  rw [override_eq]
  generalize take env Variable.order s = r at hread
  cases hread with
  | taken ht => exact ⟨_, ht, rfl⟩
  | refused _ _ hraw hbad _ => exact absurd (h _ _ hraw) hbad

theorem override_of_not_legible (s : Settings) (h : ¬Legible env) :
    ∃ before v after raw fault t, Variable.order = before ++ v :: after ∧
      Taken env before s t ∧ env v.key = some raw ∧ ¬v.Readable raw ∧ v.BlamedBy fault ∧
      override env s = (t, some fault) := by
  have hread := outcome_take env s Variable.nodup_order
  rw [override_eq]
  generalize take env Variable.order s = r at hread
  cases hread with
  | taken ht => exact absurd ht.legible h
  | @refused before after v t raw fault hvs ht hraw hbad hfault =>
    exact ⟨before, v, after, raw, fault, t, hvs, ht, hraw, hbad, hfault, rfl⟩

theorem Variable.readable_baseUrl (raw : String) : Variable.baseUrl.Readable raw :=
  ⟨{ Service.standard with baseUrl := raw }, rfl⟩

theorem Variable.parsed_eq {before after : List Variable} {raw : String}
    (horder : order = before ++ v :: after) (hbad : ¬v.Readable raw) :
    ∃ read, before = .baseUrl :: read ∧ parsed = read ++ v :: after := by
  cases before with
  | nil =>
    obtain ⟨rfl, -⟩ := List.cons.inj horder
    exact absurd (readable_baseUrl raw) hbad
  | cons w read =>
    obtain ⟨rfl, hparsed⟩ := List.cons.inj horder
    exact ⟨read, rfl, hparsed⟩

theorem Taken.kept_behind {before after : List Variable} (h : Taken env before s t)
    (horder : Variable.order = before ++ after) :
    ∀ v ∈ after, v.Keeps s.service t.service := by
  intro v hv
  have hdisjoint := List.disjoint_of_nodup_append (horder ▸ Variable.nodup_order)
  exact h.kept v fun hbefore => hdisjoint hbefore hv

theorem overrides_exact (env : Environment) (s : Settings) :
    ((s.override env).2 = none ↔
      Legible env ∧ ∀ t, Taken env Variable.order s t → t.Usable) ∧
    ((s.override env).2 = none →
      Taken env Variable.order s (s.override env).1 ∧ (s.override env).1.Usable ∧
      (s.override env).1.override env = ((s.override env).1, none)) ∧
    (¬Legible env → ∃ read v after raw fault,
      Variable.parsed = read ++ v :: after ∧
      (∀ w ∈ read, ∀ text, env w.key = some text → w.Readable text) ∧
      env v.key = some raw ∧ ¬v.Readable raw ∧
      (s.override env).2 = some fault ∧ v.BlamedBy fault ∧
      Taken env (.baseUrl :: read) s (s.override env).1 ∧
      ∀ w ∈ v :: after, w.Keeps s.service (s.override env).1.service) := by
  by_cases hlegible : Legible env
  · obtain ⟨t, ht, hr⟩ := override_of_legible s hlegible
    rw [hr]
    simp only [fault?_eq_none_iff]
    refine ⟨⟨fun hu => ⟨hlegible, fun u htaken => ht.unique htaken ▸ hu⟩, fun h => h.2 t ht⟩,
      fun hu => ⟨ht, hu, ?_⟩, fun h => absurd hlegible h⟩
    obtain ⟨u, htaken, hagain⟩ := override_of_legible t hlegible
    obtain rfl := ht.again.unique htaken
    rw [hagain, fault?_eq_none_iff.mpr hu]
  · obtain ⟨before, v, after, raw, fault, t, horder, ht, hraw, hbad, hfault, hr⟩ :=
      override_of_not_legible s hlegible
    rw [hr]
    refine ⟨⟨(nomatch ·), fun h => absurd h.1 hlegible⟩, (nomatch ·), fun _ => ?_⟩
    have hkept := ht.kept_behind horder
    obtain ⟨read, rfl, hparsed⟩ := Variable.parsed_eq horder hbad
    refine ⟨read, v, after, raw, fault, hparsed, fun w hw text htext => ?_, hraw, hbad, rfl, hfault,
      ht, hkept⟩
    exact ⟨t.service, (ht.applied w (List.mem_cons_of_mem _ hw)).given text htext⟩

def offered (key : String) : Option String :=
  if key = SettingsFault.wireFormatKey then some " JSON\n"
  else if key = sampleSizeKey then some "\t+040 "
  else if key = timeoutSecsKey then some "5"
  else none

def offeredWithBadPage (key : String) : Option String :=
  if key = groupPageSizeKey then some "lots" else offered key

theorem bad_page_size_ends_overrides :
    (standard.override offered).2 = none ∧
    Taken offered Variable.order standard (standard.override offered).1 ∧
    (standard.override offered).1.override offered = ((standard.override offered).1, none) ∧
    (∃ fault, (standard.override offeredWithBadPage).2 = some fault ∧
      Variable.groupPageSize.BlamedBy fault) ∧
    (standard.override offeredWithBadPage).1.service =
      ⟨"http://localhost:8000", .json, 40, 25, 30⟩ := by
  have hnone : (standard.override offered).2 = none := by decide +kernel
  obtain ⟨hiff, hok, -⟩ := overrides_exact offered standard
  obtain ⟨htaken, -, hagain⟩ := hok hnone
  have hbad : ¬Legible offeredWithBadPage := by
    intro h
    obtain ⟨service, hservice⟩ := h .groupPageSize "lots" (by decide)
    have hread := Text.readNumeral_trim_iff.mpr hservice
    have hletters : Text.readNumeral (Text.trim "lots") = .error .invalidDigit := by decide +kernel
    rw [hletters] at hread
    cases hread
  obtain ⟨-, -, hrefused⟩ := overrides_exact offeredWithBadPage standard
  obtain ⟨read, v, after, raw, fault, -, -, hraw, hunread, hfault, hblamed, -, -⟩ := hrefused hbad
  refine ⟨hnone, htaken, hagain, ⟨fault, hfault, ?_⟩, by decide +kernel⟩
  have hv : v = .groupPageSize := by
    by_contra hne
    have hsame : offeredWithBadPage v.key = offered v.key := by
      cases v <;> first | rfl | exact absurd rfl hne
    exact hunread ((hiff.mp hnone).1 v raw (hsame ▸ hraw))
  exact hv ▸ hblamed

end Settings
end FacetBrowser
