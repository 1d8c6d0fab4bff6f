import NocAgent.Lib.Occurrence
import NocAgent.Proactive.Scanner
import NocAgent.Python.Words

/-!
# What a disk handoff is about

The key of a disk hotspot joins the host and the mountpoint with a colon, collapsed and cut to 200
characters; the handoff reads both back from the key.

* `diskResourceParts`, `diskHandoffFields` — what the request takes from the hotspot.
* `NamesMeasured` — the handoff names the host and the mountpoint of the sample.
* `Recoverable` — both labels leave a text, the mountpoint has no colon in its first 160 characters,
  and the two fit into the key beside each other.
* `namesMeasured_iff` — for every sample, the first is the case exactly when the second is.
-/

set_option autoImplicit false

namespace NocAgent.Proactive

open Occurrence Patterns

/-! ## The request -/

/-- `disk_resource_parts`. -/
def diskResourceParts (h : Hotspot) : String × String :=
  match splitLast ':' h.key.toList with
  | some (host, filesystem) =>
    (orText (orText (String.ofList host) h.resource) "unknown",
      orText (String.ofList filesystem) "unknown")
  | none => (orText (orText h.resource h.key) "unknown", "unknown")

/-- The fields of `build_disk_handoff_request` that name the host and the filesystem, as they are
given to the constructors. -/
structure DiskHandoffFields where
  knowledgeScope : String
  resource : JsonDict
  /-- of the first objective -/
  description : String
  payload : JsonDict

def diskHandoffFields (py : Python) (h : Hotspot) : DiskHandoffFields :=
  let host := (diskResourceParts h).1
  let filesystem := (diskResourceParts h).2
  { knowledgeScope := "disk:" ++ host ++ ":" ++ filesystem
    resource := [("host", .str host), ("filesystem", .str filesystem),
      ("resource", .str h.resource), ("hotspot_key", .str h.key)]
    description :=
      "Verify " ++ host ++ ":" ++ filesystem ++ " no longer violates the disk_fill rule."
    payload := [("rule_id", .str h.ruleId), ("host", .str host), ("filesystem", .str filesystem),
      ("fingerprint", .str (h.fingerprint py))] }

/-! ## The property -/

section Property

variable (py : Python) (s : Sample)

/-- The host of the sample, as `sanitize_label` leaves it. -/
def measuredHost : String := sanitizeLabel py 160 (s.host "host")

def measuredMount : String := sanitizeLabel py 160 (s.label "mountpoint" "?")

/-- **The handoff of the hotspot is about the filesystem of the sample.** -/
structure NamesMeasured (h : Hotspot) : Prop where
  parts : diskResourceParts h = (measuredHost py s, measuredMount py s)
  resource : (diskHandoffFields py h).resource.get "host" = .str (measuredHost py s) ∧
    (diskHandoffFields py h).resource.get "filesystem" = .str (measuredMount py s)
  scope : (diskHandoffFields py h).knowledgeScope =
    "disk:" ++ measuredHost py s ++ ":" ++ measuredMount py s
  payload : (diskHandoffFields py h).payload.get "host" = .str (measuredHost py s) ∧
    (diskHandoffFields py h).payload.get "filesystem" = .str (measuredMount py s)

/-- A label that is collapsed and filtered, before it is cut. -/
def scrub (label : String) : List Char := (squeeze isSpace ' ' label.toList).filter py.isPrintable

/-- The space between the host and the colon of the key: the host ends with whitespace, behind a
word. -/
def gapAfter (label : String) : List Char := (stageAfter isSpace .start label.toList).sep ' '

/-- The space between the colon and the mountpoint: that starts with whitespace, before a word. -/
def gapBefore (label : String) : List Char :=
  if label.toList.head?.any isSpace && !(squeeze isSpace ' ' label.toList).isEmpty then [' '] else []

/-- A host of at most 160 characters right before the colon, and room behind it for the mountpoint
up to its own cut. -/
structure FitsBeside (host mount : String) : Prop where
  short : (scrub py host).length ≤ 160
  tight : gapAfter host = []
  room : (gapBefore mount ++ scrub py mount).take (199 - (scrub py host).length) =
    (scrub py mount).take 160

/-- A host that fills the key alone, and reads there as its own first 160 characters, a colon and
the mountpoint. -/
structure FillsKey (host mount : String) : Prop where
  long : 200 ≤ (scrub py host ++ gapAfter host).length
  reads : (scrub py host ++ gapAfter host).take 200 =
    (scrub py host).take 160 ++ ':' :: (scrub py mount).take 160

/-- What the two labels must be for the key to be read back. -/
structure Recoverable (host mount : String) : Prop where
  named : scrub py host ≠ []
  mounted : scrub py mount ≠ []
  plain : ':' ∉ (scrub py mount).take 160
  fits : FitsBeside py host mount ∨ FillsKey py host mount

/-- A space and a colon are printable. -/
structure PrintableLaws (py : Python) : Prop where
  space : py.isPrintable ' ' = true
  colon : py.isPrintable ':' = true

end Property

/-! ## Reading a cut key back -/

section Cut

variable {x y a b : List Char}

/-- The joined text. -/
def joined (x y a b : List Char) : List Char := x ++ (a ++ ':' :: (b ++ y))

theorem orText_ofList_eq {p : List Char} {other : String} (hp : p ≠ []) :
    orText (String.ofList p) other = String.ofList p :=
  if_neg fun h => hp (String.ofList_eq_empty_iff.1 h)

/-- **A key is read back as both texts exactly when its 200 characters are the two texts with the
colon between them, and the second has none.** -/
theorem diskResourceParts_eq_iff {h : Hotspot} (hkey : h.key.toList = (joined x y a b).take 200)
    (hresource : h.resource.toList = x.take 120) (ha : a.length ≤ 1) :
    diskResourceParts h = (String.ofList (x.take 160), String.ofList (y.take 160)) ↔
      x ≠ [] ∧ y ≠ [] ∧ ':' ∉ y.take 160 ∧
        (joined x y a b).take 200 = x.take 160 ++ ':' :: y.take 160 := by
  unfold diskResourceParts
  rw [hkey]
  have hx160 : (x.take 160).length ≤ 160 := List.length_take_le _ _
  have hy160 : (y.take 160).length ≤ 160 := List.length_take_le _ _
  cases hsplit : splitLast ':' ((joined x y a b).take 200) with
  | none =>
    have hcolon := splitLast_eq_none_iff.1 hsplit
    refine iff_of_false (fun heq => ?_) fun h => hcolon (by rw [h.2.2.2]; simp)
    -- the host fills the key, and then its own cut is not the one of the resource
    have hlong : 200 ≤ x.length + a.length := by
      by_contra hshort
      refine hcolon ?_
      unfold joined
      rw [← List.append_assoc, List.take_append, List.length_append]
      obtain ⟨n, hn⟩ : ∃ n, 200 - (x.length + a.length) = n + 1 :=
        ⟨200 - (x.length + a.length) - 1, by omega⟩
      rw [hn, List.take_succ_cons]
      exact List.mem_append_right _ List.mem_cons_self
    have hres : x.take 120 ≠ [] := List.ne_nil_of_length_pos (by rw [List.length_take]; omega)
    have hname : orText (orText h.resource h.key) "unknown" = String.ofList (x.take 120) := by
      rw [show h.resource = String.ofList (x.take 120) by rw [← hresource, String.ofList_toList],
        orText_ofList_eq hres, orText_ofList_eq hres]
    have hlength := congrArg List.length
      (String.ofList_inj.1 (hname.symm.trans (congrArg Prod.fst heq)))
    rw [List.length_take, List.length_take] at hlength
    omega
  | some parts =>
    obtain ⟨p, q⟩ := parts
    obtain ⟨hcut, hq⟩ := splitLast_eq_some_iff.1 hsplit
    have hlengths := congrArg List.length hcut
    rw [List.length_take, List.length_append, List.length_cons] at hlengths
    constructor
    · intro heq
      obtain ⟨hhost, hmount⟩ := Prod.mk.inj heq
      have hq' : q ≠ [] := by
        rintro rfl
        have hy : y.take 160 = "unknown".toList := String.ofList_inj.1 hmount.symm
        have hylength := congrArg List.length hy
        rw [List.length_take, show "unknown".toList.length = 7 from rfl] at hylength
        rw [List.take_of_length_le (by omega)] at hy
        by_cases hle : (joined x y a b).length ≤ 200
        · -- an uncut key ends with the mountpoint
          rw [List.take_of_length_le hle] at hcut
          have hlast := congrArg List.getLast? hcut
          unfold joined at hlast
          rw [hy, ← List.append_assoc, ← List.singleton_append, ← List.append_assoc,
            ← List.append_assoc, List.getLast?_append_of_ne_nil _ (by decide),
            List.getLast?_concat] at hlast
          exact absurd hlast (by decide)
        · have hp : p ≠ [] := List.ne_nil_of_length_pos (by simp at hlengths; omega)
          rw [orText_ofList_eq hp, orText_ofList_eq hp] at hhost
          rw [String.ofList_inj.1 hhost] at hlengths
          simp at hlengths
          omega
      have hqy : q = y.take 160 := by
        rw [orText_ofList_eq hq'] at hmount
        exact String.ofList_inj.1 hmount
      have hp' : p ≠ [] := by
        rintro rfl
        -- a key that begins with its last colon has no host
        rw [hqy, List.length_nil] at hlengths
        rw [List.take_of_length_le (by omega)] at hcut
        cases x with
        | nil =>
          have hres : h.resource = "" := String.toList_eq_nil_iff.1 (by rw [hresource]; rfl)
          rw [hres] at hhost
          exact absurd hhost (by decide)
        | cons c x =>
          refine hq ?_
          rw [← (List.cons.inj hcut).2]
          exact List.mem_append_right _ (List.mem_append_right _ List.mem_cons_self)
      have hpx : p = x.take 160 := by
        rw [orText_ofList_eq hp', orText_ofList_eq hp'] at hhost
        exact String.ofList_inj.1 hhost
      refine ⟨?_, ?_, hqy ▸ hq, by rw [← hqy, ← hpx]; exact hcut⟩
      · rintro rfl
        exact hp' (hpx.trans List.take_nil)
      · rintro rfl
        exact hq' (hqy.trans List.take_nil)
    · rintro ⟨hx, hy, hplain, heq⟩
      have hx' : x.take 160 ≠ [] := by simp [hx]
      have hy' : y.take 160 ≠ [] := by simp [hy]
      have hparts := splitLast_eq_some_iff.2 ⟨heq, hplain⟩
      rw [hsplit] at hparts
      obtain ⟨rfl, rfl⟩ := Prod.mk.inj (Option.some.inj hparts)
      dsimp only
      rw [orText_ofList_eq hx', orText_ofList_eq hx', orText_ofList_eq hy']

/-- **When the 200 characters of the key are the two cut texts with the colon between them.** -/
theorem take_joined_eq_iff (hplain : ':' ∉ y.take 160) :
    (joined x y a b).take 200 = x.take 160 ++ ':' :: y.take 160 ↔
      (x.length ≤ 160 ∧ a = [] ∧ (b ++ y).take (199 - x.length) = y.take 160) ∨
        (200 ≤ (x ++ a).length ∧ (x ++ a).take 200 = x.take 160 ++ ':' :: y.take 160) := by
  unfold joined
  rw [← List.append_assoc]
  by_cases hlong : 200 ≤ (x ++ a).length
  · rw [List.take_append_of_le_length hlong]
    refine ⟨fun heq => Or.inr ⟨hlong, heq⟩, ?_⟩
    rintro (⟨hshort, rfl, -⟩ | ⟨-, heq⟩)
    · rw [List.append_nil] at hlong
      omega
    · exact heq
  · rw [List.length_append] at hlong
    have hcut : (x ++ a ++ ':' :: (b ++ y)).take 200 =
        (x ++ a) ++ ':' :: (b ++ y).take (199 - (x.length + a.length)) := by
      rw [List.take_append, List.take_of_length_le (by rw [List.length_append]; omega),
        List.length_append, show 200 - (x.length + a.length) = 199 - (x.length + a.length) + 1 by
          omega, List.take_succ_cons]
    rw [hcut]
    constructor
    · intro heq
      -- the colon behind the host is the last one of both sides
      have hends : x ++ a = x.take 160 ∧
          (b ++ y).take (199 - (x.length + a.length)) = y.take 160 := by
        rcases List.append_eq_append_iff.1 heq with ⟨w, hx, hw⟩ | ⟨w, hx, hw⟩
        · have hlength := congrArg List.length hx
          rw [List.length_take, List.length_append, List.length_append] at hlength
          have hnil : w = [] := List.length_eq_zero_iff.1 (by omega)
          subst hnil
          exact ⟨(hx.trans (List.append_nil _)).symm, List.tail_eq_of_cons_eq hw⟩
        · cases w with
          | nil => exact ⟨hx.trans (List.append_nil _), (List.tail_eq_of_cons_eq hw).symm⟩
          | cons d w =>
            refine absurd ?_ hplain
            rw [List.tail_eq_of_cons_eq hw]
            exact List.mem_append_right _ List.mem_cons_self
      obtain ⟨hhost, hmount⟩ := hends
      have hlength := congrArg List.length hhost
      rw [List.length_append, List.length_take] at hlength
      have hnil : a = [] := List.length_eq_zero_iff.1 (by omega)
      subst hnil
      exact Or.inl ⟨by omega, rfl, hmount⟩
    · rintro (⟨hshort, rfl, hroom⟩ | ⟨hfills, -⟩)
      · rw [List.append_nil, List.length_nil, Nat.add_zero, hroom, List.take_of_length_le hshort]
      · rw [List.length_append] at hfills
        exact absurd hfills hlong

end Cut

/-! ## Samples -/

section Samples

variable {py : Python} (laws : PrintableLaws py)

theorem toList_sanitizeLabel (n : Nat) (label : String) :
    (sanitizeLabel py n label).toList = (scrub py label).take n := by
  unfold sanitizeLabel scrub
  rw [toList_takeChars, String.toList_ofList, toList_collapseSpace_squeeze]

include laws in
/-- What is left of a host, a colon and a mountpoint. -/
theorem scrub_append (host mount : String) : scrub py (host ++ ":" ++ mount) =
    joined (scrub py host) (scrub py mount) (gapAfter host) (gapBefore mount) := by
  have hspace : ∀ xs : List Char, (∀ c ∈ xs, c = ' ') → xs.filter py.isPrintable = xs :=
    fun xs hxs => List.filter_eq_self.2 fun c hc => by rw [hxs c hc, laws.space]
  have hafter : ∀ c ∈ gapAfter host, c = ' ' := by
    intro c hc
    unfold gapAfter Stage.sep at hc
    split at hc
    · exact List.mem_singleton.1 hc
    · exact absurd hc List.not_mem_nil
  have hbefore : ∀ c ∈ gapBefore mount, c = ' ' := by
    intro c hc
    unfold gapBefore at hc
    split at hc
    · exact List.mem_singleton.1 hc
    · exact absurd hc List.not_mem_nil
  have hsqueezed : squeeze isSpace ' ' (host ++ ":" ++ mount).toList =
      squeeze isSpace ' ' host.toList ++
        (gapAfter host ++ ':' :: (gapBefore mount ++ squeeze isSpace ' ' mount.toList)) := by
    unfold squeeze
    rw [String.toList_append, String.toList_append, List.append_assoc, squeezeFrom_append,
      show ":".toList ++ mount.toList = ':' :: mount.toList from rfl,
      squeezeFrom_solid (show isSpace ':' = false from rfl), squeezeFrom_inWord]
    rfl
  unfold scrub joined
  rw [hsqueezed, List.filter_append, List.filter_append, List.filter_cons, if_pos laws.colon,
    List.filter_append, hspace _ hafter, hspace _ hbefore]

theorem length_gapAfter (label : String) : (gapAfter label).length ≤ 1 := by
  unfold gapAfter Stage.sep
  split
  · exact le_rfl
  · exact Nat.zero_le 1

include laws in
/-- **The key of a sample is read back exactly when its labels are recoverable.** -/
theorem diskResourceParts_iff {soon : Bool} {s : Sample} {h : Hotspot}
    (hrule : diskHotspot py soon s = some h) :
    diskResourceParts h = (measuredHost py s, measuredMount py s) ↔
      Recoverable py (s.host "host") (s.label "mountpoint" "?") := by
  have hfields : h.key = sanitizeLabel py 200 (s.host "host" ++ ":" ++ s.label "mountpoint" "?") ∧
      h.resource = sanitizeLabel py 120 (s.host "host") := by
    unfold diskHotspot at hrule
    dsimp only at hrule
    split at hrule
    · cases hrule
    · obtain rfl := Option.some.inj hrule
      exact ⟨rfl, rfl⟩
  have hkey := congrArg String.toList hfields.1
  rw [toList_sanitizeLabel, scrub_append laws] at hkey
  have hresource := congrArg String.toList hfields.2
  rw [toList_sanitizeLabel] at hresource
  have hmeasured : ∀ label : String,
      sanitizeLabel py 160 label = String.ofList ((scrub py label).take 160) := by
    intro label
    rw [← toList_sanitizeLabel, String.ofList_toList]
  unfold measuredHost measuredMount
  rw [hmeasured, hmeasured, diskResourceParts_eq_iff hkey hresource (length_gapAfter _)]
  constructor
  · rintro ⟨hnamed, hmounted, hplain, hcut⟩
    refine ⟨hnamed, hmounted, hplain, ?_⟩
    rcases (take_joined_eq_iff hplain).1 hcut with ⟨hshort, htight, hroom⟩ | ⟨hlong, hreads⟩
    · exact Or.inl ⟨hshort, htight, hroom⟩
    · exact Or.inr ⟨hlong, hreads⟩
  · intro hr
    refine ⟨hr.named, hr.mounted, hr.plain, (take_joined_eq_iff hr.plain).2 ?_⟩
    rcases hr.fits with hfits | hfills
    · exact Or.inl ⟨hfits.short, hfits.tight, hfits.room⟩
    · exact Or.inr ⟨hfills.long, hfills.reads⟩

end Samples

/-- **The handoff of a disk hotspot names the host and the filesystem that were measured exactly
when their labels can be read back from the key.** -/
theorem namesMeasured_iff {py : Python} (laws : PrintableLaws py) {soon : Bool} {s : Sample}
    {h : Hotspot} (hrule : diskHotspot py soon s = some h) :
    NamesMeasured py s h ↔ Recoverable py (s.host "host") (s.label "mountpoint" "?") := by
  rw [← diskResourceParts_iff laws hrule]
  refine ⟨NamesMeasured.parts, fun hparts => ⟨hparts, ?_, ?_, ?_⟩⟩
  · unfold diskHandoffFields
    rw [hparts]
    exact ⟨rfl, rfl⟩
  · unfold diskHandoffFields
    rw [hparts]
  · unfold diskHandoffFields
    rw [hparts]
    exact ⟨rfl, rfl⟩

/-- The sample of a disk with 5 percent free. -/
def fullDisk (inst mountpoint : String) : Sample :=
  ⟨[("instance", inst), ("mountpoint", mountpoint)], .fin (1 / 20)⟩

/-- The hotspot of that sample names what was measured. -/
def NamedRight (inst mountpoint : String) : Prop :=
  ∃ h, diskHotspot asciiPython false (fullDisk inst mountpoint) = some h ∧
    NamesMeasured asciiPython (fullDisk inst mountpoint) h

theorem asciiPython_printable : PrintableLaws asciiPython := ⟨rfl, rfl⟩

theorem diskHotspot_fullDisk (inst mountpoint : String) :
    ∃ h, diskHotspot asciiPython false (fullDisk inst mountpoint) = some h := by
  have hlow : (fullDisk inst mountpoint).value.ge DOUBLE_0_20 = false := by
    change decide (DOUBLE_0_20 ≤ 1 / 20) = false
    unfold DOUBLE_0_20
    norm_num
  refine ⟨_, if_neg ?_⟩
  rw [hlow]
  exact Bool.false_ne_true

theorem namesMeasured_log : NamedRight "log:9100" "/var" := by
  obtain ⟨h, hrule⟩ := diskHotspot_fullDisk "log:9100" "/var"
  refine ⟨h, hrule, (namesMeasured_iff asciiPython_printable hrule).2 ?_⟩
  exact ⟨by decide, by decide, by decide, Or.inl ⟨by decide, by decide, by decide⟩⟩

/-- A mountpoint with a colon in it is taken apart. -/
theorem not_namesMeasured_colon : ¬ ∀ (s : Sample) (h : Hotspot),
    diskHotspot asciiPython false s = some h → NamesMeasured asciiPython s h := by
  intro hall
  obtain ⟨h, hrule⟩ := diskHotspot_fullDisk "log:9100" "/mnt/backup:2024"
  have hnames := hall (fullDisk "log:9100" "/mnt/backup:2024") h hrule
  exact ((diskResourceParts_iff asciiPython_printable hrule).1 hnames.parts).plain (by decide)

end NocAgent.Proactive
