import FeatureFlags.Proofs.Json.Limits
import FeatureFlags.Proofs.Payload.Codec
import FeatureFlags.Proofs.Sticky.Codec

/-!
# Writing and reading again

Features, rules, experiments, overrides, documents of assignments and payloads that have
been read off JSON come back when they are written and read again (`comesBack_of_decode`).  What
comes back is equal to what was there, and written again it gives the same JSON.  It is the
very same thing, except that zeros inside of values have lost their signs and that the
members of a group stand in the order in which they were written.

A payload comes back if what it keeps as JSON is no feature.  Whatever the decryptor, it then
defines the same and fails in the same way.  An encrypted text is not looked at in between,
so what it stands for is read twice in the same way, and it only remains to say that it is
equal to itself (`ServedFeatures.same_self`).

Trees always come back, and so do texts, except for their floats.  The reader rounds more
than once, and the float that is written is not always the one that is read
(`drifting_default`).
-/

namespace FeatureFlags

open Json (Codec Decoder Draft Format)
open Text.Utf8 (encode)

/-! ## Equal outcomes -/

/-- Two attempts fail with the same error, or both succeed with results that are equal. -/
inductive SameOutcome {α : Type} (same : α → α → Bool) : Except Error α → Except Error α → Prop
  | ok {a b : α} (h : same a b = true) : SameOutcome same (.ok a) (.ok b)
  | error (e : Error) : SameOutcome same (.error e) (.error e)

theorem SameOutcome.refl {α : Type} {same : α → α → Bool} {outcome : Except Error α}
    (h : ∀ a, outcome = .ok a → same a a = true) : SameOutcome same outcome outcome := by
  cases outcome with
  | ok a => exact .ok (h a rfl)
  | error e => exact .error e

def Definitions.same (a b : Definitions) : Bool :=
  Dictionary.same Feature.same a.features b.features &&
    Dictionary.same ValueSet.same a.savedGroups b.savedGroups && a.dateUpdated = b.dateUpdated

namespace ServedFeatures

/-- The features that could be decoded are equal. -/
def same (a b : ServedFeatures) : Bool := Dictionary.same Feature.same a.features b.features

theorem features_unsignedZeros (served : ServedFeatures) :
    served.unsignedZeros.features = Dictionary.mapValues Feature.unsignedZeros served.features := by
  unfold features unsignedZeros Dictionary.mapValues
  rw [List.filterMap_map, List.map_filterMap]
  refine congrArg (List.filterMap · served) (funext fun entry => ?_)
  obtain ⟨key, feature | json⟩ := entry <;> rfl

theorem mem_features_iff {served : ServedFeatures} {entry : String × Feature} :
    entry ∈ served.features ↔ (entry.1, .parsed entry.2) ∈ served := by
  unfold features
  rw [List.mem_filterMap]
  constructor
  · rintro ⟨⟨key, feature | json⟩, hserved, heq⟩
    · cases heq
      exact hserved
    · cases heq
  · intro hserved
    exact ⟨_, hserved, rfl⟩

theorem same_unsignedZeros_right (a b : ServedFeatures) : a.same b.unsignedZeros = a.same b := by
  rw [same, features_unsignedZeros,
    Dictionary.same_mapValues_right Feature.same_unsignedZeros_right, same]

/-- Features that have been read are equal to themselves. -/
theorem same_self {draft : Draft} {served : ServedFeatures} (hsound : draft.Sound)
    (h : decode draft = some served) : served.same served = true := by
  rw [← same_unsignedZeros_right, same, features_unsignedZeros, Dictionary.same_mapValues_iff]
  intro entry hentry
  obtain ⟨-, members, rfl, hmembers⟩ := Format.exists_of_dictionary h
  obtain ⟨member, hmember, hread⟩ := hmembers _ (mem_features_iff.mp hentry)
  obtain ⟨json, -, ⟨feature, hfeature, heq⟩ | ⟨-, heq⟩⟩ := ServedFeature.cases_of_decode hread
  · cases heq
    have hsame := (Feature.codec.survives (Draft.sound_object_iff.mp hsound member hmember)
      hfeature).same_reread
    rwa [Feature.same_codec, Feature.reread_codec] at hsame
  · cases heq

end ServedFeatures

namespace SavedGroups

def same (a b : SavedGroups) : Bool := Dictionary.same ValueSet.same a b

def reread (groups : SavedGroups) : SavedGroups := Dictionary.mapValues ValueSet.reread groups

theorem same_reread_right (a b : SavedGroups) : same a (reread b) = same a b :=
  Dictionary.same_mapValues_right ValueSet.same_reread_right a b

/-- Groups that have been read are equal to themselves. -/
theorem same_self {draft : Draft} {groups : SavedGroups} (hsound : draft.Sound)
    (h : decode draft = some groups) : same groups groups = true := by
  rw [← same_reread_right]
  exact (codec.survives hsound h).same_reread

end SavedGroups

namespace Payload

variable {p : Payload} {decryptor : Option Decryptor}

theorem exists_of_decrypt {α : Type} {decoder : Decoder α} {ciphertext : String} {value : α}
    (h : decrypt decryptor decoder ciphertext = .ok value) :
    ∃ draft : Draft, draft.Sound ∧ decoder draft = some value := by
  unfold decrypt at h
  split at h
  · cases h
  · split at h
    · cases h
    · unfold decodeBytes at h
      split at h
      · rename_i plaintext _ value hvalue
        cases h
        obtain ⟨draft, hdraft, hread⟩ := Option.bind_eq_some_iff.mp hvalue
        exact ⟨draft, Json.sound_of_ofBytes? hdraft, hread⟩
      · cases h

/-- What counts: something plain, or if that is empty what is encrypted. -/
def effective {α : Type} (decryptor : Option Decryptor) (decoder : Decoder α)
    (ciphertext : Option String) (isEmpty : Bool) (plain : α) : Except Error α :=
  match ciphertext with
  | some ciphertext => if isEmpty then decrypt decryptor decoder ciphertext else .ok plain
  | none => .ok plain

theorem effectiveFeatures_eq (p : Payload) (decryptor : Option Decryptor) :
    p.effectiveFeatures decryptor = effective decryptor ServedFeatures.decode p.encryptedFeatures
      p.features.isEmpty p.features := rfl

theorem effectiveGroups_eq (p : Payload) (decryptor : Option Decryptor) :
    p.effectiveGroups decryptor = effective decryptor SavedGroups.decode p.encryptedSavedGroups
      (p.savedGroups.getD []).isEmpty (p.savedGroups.getD []) := rfl

/-- Only what is plain is read again, and what is encrypted equals itself. -/
theorem sameOutcome_effective {α : Type} {same : α → α → Bool} {decoder : Decoder α}
    {ciphertext : Option String} {isEmpty : Bool} {plain again : α}
    (hplain : same plain again = true)
    (hself : ∀ (draft : Draft) (value : α), draft.Sound → decoder draft = some value →
      same value value = true) :
    SameOutcome same (effective decryptor decoder ciphertext isEmpty plain)
      (effective decryptor decoder ciphertext isEmpty again) := by
  cases ciphertext with
  | none => exact .ok hplain
  | some ciphertext =>
      cases isEmpty with
      | false => exact .ok hplain
      | true =>
          refine .refl fun value hvalue => ?_
          obtain ⟨draft, hsound, hread⟩ := exists_of_decrypt hvalue
          exact hself draft value hsound hread

theorem sameOutcome_effectiveFeatures (h : p.features.same p.features = true) :
    SameOutcome ServedFeatures.same (p.effectiveFeatures decryptor)
      (p.reread.effectiveFeatures decryptor) := by
  have hagain : p.features.same p.reread.features = true :=
    (ServedFeatures.same_unsignedZeros_right ..).trans h
  have hempty : p.reread.features.isEmpty = p.features.isEmpty := Dictionary.isEmpty_mapValues ..
  rw [effectiveFeatures_eq, effectiveFeatures_eq, hempty]
  exact sameOutcome_effective hagain fun _ _ => ServedFeatures.same_self

theorem sameOutcome_effectiveGroups
    (h : SavedGroups.same (p.savedGroups.getD []) (p.savedGroups.getD []) = true) :
    SameOutcome SavedGroups.same (p.effectiveGroups decryptor)
      (p.reread.effectiveGroups decryptor) := by
  have hgroups : p.reread.savedGroups.getD [] = SavedGroups.reread (p.savedGroups.getD []) := by
    rw [reread]
    cases p.savedGroups <;> rfl
  have hagain : SavedGroups.same (p.savedGroups.getD []) (p.reread.savedGroups.getD []) = true := by
    rw [hgroups, SavedGroups.same_reread_right]
    exact h
  have hempty : (p.reread.savedGroups.getD []).isEmpty = (p.savedGroups.getD []).isEmpty := by
    rw [hgroups]
    exact Dictionary.isEmpty_mapValues ..
  rw [effectiveGroups_eq, effectiveGroups_eq, hempty]
  exact sameOutcome_effective hagain fun _ _ => SavedGroups.same_self

/-- **A payload that is read again defines the same and fails in the same way.** -/
theorem sameOutcome_definitions (hfeatures : p.features.same p.features = true)
    (hgroups : SavedGroups.same (p.savedGroups.getD []) (p.savedGroups.getD []) = true) :
    SameOutcome Definitions.same (p.definitions decryptor) (p.reread.definitions decryptor) := by
  have hserved : SameOutcome ServedFeatures.same (p.effectiveFeatures decryptor)
    (p.reread.effectiveFeatures decryptor) := sameOutcome_effectiveFeatures hfeatures
  have hsaved : SameOutcome SavedGroups.same (p.effectiveGroups decryptor)
    (p.reread.effectiveGroups decryptor) := sameOutcome_effectiveGroups hgroups
  unfold definitions
  generalize p.effectiveFeatures decryptor = first, p.reread.effectiveFeatures decryptor = second
    at hserved ⊢
  generalize p.effectiveGroups decryptor = third, p.reread.effectiveGroups decryptor = fourth
    at hsaved ⊢
  -- the features come first: if they fail, the groups are not looked at on either side
  cases hserved with
  | error e => exact .error e
  | ok hserved =>
      cases hsaved with
      | error e => exact .error e
      | ok hsaved =>
          refine .ok ?_
          have hdate : p.reread.dateUpdated = p.dateUpdated := rfl
          simp only [Definitions.same, hdate, decide_true, Bool.and_true, Bool.and_eq_true]
          exact ⟨hserved, hsaved⟩

theorem same_self {draft : Draft} (hsound : draft.Sound)
    (h : recordCodec.decode draft = some p.parts) :
    p.features.same p.features = true ∧
      SavedGroups.same (p.savedGroups.getD []) (p.savedGroups.getD []) = true := by
  have hsame := (recordCodec.survives hsound h).same_reread
  simp [recordCodec, fields, featuresField, otherFields, parts] at hsame
  obtain ⟨hfeatures, hgroups, -⟩ := hsame
  constructor
  · rw [← ServedFeatures.same_unsignedZeros_right, ServedFeatures.same,
      ServedFeatures.features_unsignedZeros, Dictionary.same_mapValues_iff]
    exact fun entry hentry => Dictionary.same_mapValues_iff.mp hfeatures _
      (ServedFeatures.mem_features_iff.mp hentry)
  · rw [← SavedGroups.same_reread_right]
    cases hsaved : p.savedGroups with
    | none => rfl
    | some groups =>
        rw [hsaved] at hgroups
        exact hgroups

end Payload

/-! ## Drafts that things are read off -/

/-- The draft of a text, as it stands or as the tree that it settles into. -/
def Json.Draft.IsOfText (draft : Draft) : Prop :=
  ∃ text, Draft.ofBytes? text = some draft ∨
    ∃ json, Json.ofBytes? text = some json ∧ draft = .ofJson json

/-- The draft of a text or of a tree in memory. -/
def Json.Draft.IsJson (draft : Draft) : Prop :=
  draft.IsOfText ∨ ∃ json : Json, json.Regular ∧ draft = .ofJson json

namespace Json.Draft

theorem IsOfText.fits {draft : Draft} (h : draft.IsOfText) : draft.Fits 0 := by
  obtain ⟨text, hdraft | ⟨json, hjson, rfl⟩⟩ := h
  · exact fits_of_ofBytes? hdraft
  · obtain ⟨draft, hdraft, hsettled⟩ := Option.bind_eq_some_iff.mp hjson
    exact fits_of_toJson? (fits_of_ofBytes? hdraft) hsettled

theorem IsJson.sound {draft : Draft} (h : draft.IsJson) : draft.Sound := by
  rcases h with ⟨text, hdraft | ⟨json, hjson, rfl⟩⟩ | ⟨json, hjson, rfl⟩
  · exact sound_of_ofBytes? hdraft
  · obtain ⟨draft, hdraft, hsettled⟩ := Option.bind_eq_some_iff.mp hjson
    exact sound_ofJson (regular_of_toJson? (sound_of_ofBytes? hdraft) hsettled)
  · exact sound_ofJson hjson

end Json.Draft

/-! ## Coming back -/

/-- What has been read off a draft becomes `y` by being written and read again. -/
structure ComesBack {α : Type} (draft : Draft) (decode : Decoder α) (toJson : α → Json)
    (Same : α → α → Prop) (x y : α) : Prop where
  /-- The tree is read again. -/
  tree : decode (.ofJson (toJson x)) = some y
  /-- The text is read again. -/
  text (hdraft : draft.IsOfText) (hfloats : (toJson x).FloatsReadBack) :
    Payload.decodeBytes decode (toJson x).bytes = .ok y
  /-- What is read again is equal. -/
  same : Same x y
  /-- And it is written in the same way. -/
  written : toJson y = toJson x

/-- The text of a tree that is read like the tree. -/
theorem decodeBytes_bytes {α : Type} {decode : Decoder α} {json : Json} {y : α}
    (hfits : (Draft.ofJson json).Fits 0) (hfloats : json.FloatsReadBack)
    (htree : decode (.ofJson json) = some y) : Payload.decodeBytes decode json.bytes = .ok y := by
  have hlegible := Json.legible_of_fits hfits hfloats
  rw [Payload.decodeBytes, Json.ofBytes?_bytes hlegible, Option.bind_some, htree]

theorem comesBack_of_codec {α : Type} (codec : Codec α) (hroom : codec.room ≤ Json.depthLimit)
    {draft : Draft} (hdraft : draft.IsJson) {x : α} (h : codec.decode draft = some x) :
    ComesBack draft codec.decode codec.toJson (fun a b => codec.same a b = true) x
      (codec.reread x) := by
  have hsurvives := codec.survives hdraft.sound h
  refine ⟨hsurvives.decode_toJson, fun htext hfloats => ?_, hsurvives.same_reread,
    hsurvives.toJson_reread⟩
  have hroom : 0 + codec.room ≤ Json.depthLimit := by omega
  exact decodeBytes_bytes (hsurvives.fits 0 hroom htext.fits) hfloats hsurvives.decode_toJson

theorem Payload.comesBack {draft : Draft} (hdraft : draft.IsJson) {p : Payload}
    (h : Payload.decode draft = some p) (hstay : p.features.Stay) :
    ComesBack draft Payload.decode Payload.toJson
      (fun a b => ∀ decryptor,
        SameOutcome Definitions.same (a.definitions decryptor) (b.definitions decryptor))
      p p.reread := by
  have hread := decode_codec_eq_some_iff.mpr ⟨h, hstay⟩
  obtain ⟨hfeatures, hgroups⟩ := same_self hdraft.sound hread
  have hsurvives := recordCodec.survives hdraft.sound hread
  have htree : decode (.ofJson p.toJson) = some p.reread := by
    have hagain := hsurvives.decode_toJson
    rw [← toJson_eq, reread_recordCodec] at hagain
    exact (decode_codec_eq_some_iff.mp hagain).1
  refine ⟨htree, fun htext hfloats => ?_, fun decryptor => ?_, ?_⟩
  · have hroom : 0 + recordCodec.room ≤ Json.depthLimit := by decide
    have hfits := hsurvives.fits 0 hroom htext.fits
    rw [← toJson_eq] at hfits
    exact decodeBytes_bytes hfits hfloats htree
  · exact sameOutcome_definitions hfeatures hgroups
  · rw [toJson_eq, toJson_eq, ← reread_recordCodec]
    exact hsurvives.toJson_reread

/-- **What is read off JSON comes back.**  Texts and conditions, and what is missing or empty, are
the very same. -/
theorem comesBack_of_decode {draft : Draft} (hdraft : draft.IsJson) :
    (∀ feature, Feature.decode draft = some feature →
      ComesBack draft Feature.decode Feature.toJson (fun a b => a.same b = true)
        feature feature.unsignedZeros) ∧
    (∀ rule, FeatureRule.decode draft = some rule →
      ComesBack draft FeatureRule.decode FeatureRule.toJson (fun a b => a.same b = true)
        rule rule.unsignedZeros) ∧
    (∀ experiment, Experiment.decode draft = some experiment →
      ComesBack draft Experiment.decode Experiment.toJson (fun a b => a.same b = true)
        experiment experiment.unsignedZeros) ∧
    (∀ override, ExperimentOverride.decode draft = some override →
      ComesBack draft ExperimentOverride.decode ExperimentOverride.toJson
        (fun a b => a.same b = true) override override) ∧
    (∀ document, StickyDocument.decode draft = some document →
      ComesBack draft StickyDocument.decode StickyDocument.toJson Eq document document) ∧
    ∀ payload, Payload.decode draft = some payload → payload.features.Stay →
      ComesBack draft Payload.decode Payload.toJson
        (fun a b => ∀ decryptor,
          SameOutcome Definitions.same (a.definitions decryptor) (b.definitions decryptor))
        payload payload.reread := by
  refine ⟨fun feature h => ?_, fun rule h => ?_, fun experiment h => ?_, fun override h => ?_,
    fun document h => ?_, fun payload h hstay => payload.comesBack hdraft h hstay⟩
  · rw [← Feature.reread_codec]
    exact comesBack_of_codec Feature.codec (by decide) hdraft h
  · rw [← FeatureRule.reread_codec]
    exact comesBack_of_codec FeatureRule.codec (by decide) hdraft h
  · rw [← Experiment.reread_codec]
    exact comesBack_of_codec Experiment.codec (by decide) hdraft h
  · have hback := comesBack_of_codec ExperimentOverride.codec (by decide) hdraft h
    rw [ExperimentOverride.reread_codec] at hback
    exact hback
  · have hback := comesBack_of_codec StickyDocument.codec (by decide) hdraft h
    rw [StickyDocument.reread_codec] at hback
    exact { hback with same := rfl }

theorem exists_of_any {α : Type} {x? : Option α} {P : α → Prop} [DecidablePred P]
    (h : x?.any (fun x => P x) = true) : ∃ x, x? = some x ∧ P x := by
  simpa [Option.any_eq_true] using h

/-- JSON that each of these things is read off. -/
def manifold : Json :=
  .object
    [("attributeName", .string "id"), ("attributeValue", .string "1"),
     ("coverage", .float (.finite (1 / 2))),
     ("features", .object
       [("a", .object [("rules", .array [.object [("force", .null)], .object []])]),
        ("b", .string "no feature")]),
     ("force", .null), ("key", .string "t"),
     ("rules", .array [.object [("force", .null)], .object []]),
     ("variations", .array [.string "A", .string "B"])]

/-- All of them are read again from their texts, and the rule that forces `null` still does. -/
theorem manifold_comes_back :
    (Draft.ofJson manifold).IsJson ∧
    (∃ feature, Feature.decode (.ofJson manifold) = some feature ∧
      Payload.decodeBytes Feature.decode feature.toJson.bytes = .ok feature.unsignedZeros ∧
      feature.unsignedZeros.rules.map (fun rule => rule.force.isSome) = [true, false]) ∧
    (∃ rule, FeatureRule.decode (.ofJson manifold) = some rule ∧
      Payload.decodeBytes FeatureRule.decode rule.toJson.bytes = .ok rule.unsignedZeros) ∧
    (∃ experiment, Experiment.decode (.ofJson manifold) = some experiment ∧
      Payload.decodeBytes Experiment.decode experiment.toJson.bytes =
        .ok experiment.unsignedZeros) ∧
    (∃ override, ExperimentOverride.decode (.ofJson manifold) = some override ∧
      Payload.decodeBytes ExperimentOverride.decode override.toJson.bytes = .ok override) ∧
    (∃ document, StickyDocument.decode (.ofJson manifold) = some document ∧
      Payload.decodeBytes StickyDocument.decode document.toJson.bytes = .ok document) ∧
    ∃ payload, Payload.decode (.ofJson manifold) = some payload ∧ payload.features.Stay ∧
      Payload.decodeBytes Payload.decode payload.toJson.bytes = .ok payload.reread := by
  -- the tree has a text; that the floats read back is computed for each kind of record
  have hlegible : manifold.Legible 0 := by
    refine Json.legible_of_fits ?_ (by decide +kernel)
    simp [manifold, Draft.ofJson, Draft.ofMembers, Draft.ofItems, Draft.Fits, Draft.MembersFit,
      Draft.ItemsFit, Json.depthLimit]
  have htext : (Draft.ofJson manifold).IsOfText := ⟨_, Or.inl (Json.ofBytes?_bytes hlegible)⟩
  have hjson : (Draft.ofJson manifold).IsJson := Or.inl htext
  obtain ⟨hfeature, hrule, hexperiment, hoverride, hdocument, hpayload⟩ := comesBack_of_decode hjson
  refine ⟨hjson, ?_, ?_, ?_, ?_, ?_, ?_⟩
  · have hread : (Feature.decode (.ofJson manifold)).any (fun feature =>
        feature.toJson.FloatsReadBack ∧
          feature.unsignedZeros.rules.map (fun rule => rule.force.isSome) = [true, false]) =
        true := by decide +kernel
    obtain ⟨feature, h, hfloats, hforce⟩ := exists_of_any hread
    exact ⟨feature, h, (hfeature feature h).text htext hfloats, hforce⟩
  · have hread : (FeatureRule.decode (.ofJson manifold)).any
        (fun rule => rule.toJson.FloatsReadBack) = true := by decide +kernel
    obtain ⟨rule, h, hfloats⟩ := exists_of_any hread
    exact ⟨rule, h, (hrule rule h).text htext hfloats⟩
  · have hread : (Experiment.decode (.ofJson manifold)).any
        (fun experiment => experiment.toJson.FloatsReadBack) = true := by decide +kernel
    obtain ⟨experiment, h, hfloats⟩ := exists_of_any hread
    exact ⟨experiment, h, (hexperiment experiment h).text htext hfloats⟩
  · have hread : (ExperimentOverride.decode (.ofJson manifold)).any
        (fun override => override.toJson.FloatsReadBack) = true := by decide +kernel
    obtain ⟨override, h, hfloats⟩ := exists_of_any hread
    exact ⟨override, h, (hoverride override h).text htext hfloats⟩
  · have hread : (StickyDocument.decode (.ofJson manifold)).any
        (fun document => document.toJson.FloatsReadBack) = true := by decide +kernel
    obtain ⟨document, h, hfloats⟩ := exists_of_any hread
    exact ⟨document, h, (hdocument document h).text htext hfloats⟩
  · have hread : (Payload.decode (.ofJson manifold)).any (fun payload =>
        payload.toJson.FloatsReadBack ∧ payload.features.Stay) = true := by decide +kernel
    obtain ⟨payload, h, hfloats, hstay⟩ := exists_of_any hread
    exact ⟨payload, h, hstay, (hpayload payload h hstay).text htext hfloats⟩

/-- The default value is read with more than one rounding.  The text that is written for it is
read as another number, and the two are not equal. -/
theorem drifting_default :
    let text := encode "\x7b\"defaultValue\":4503599627370495.50\x7d".toList
    ∃ feature drifted, Payload.decodeBytes Feature.decode text = .ok feature ∧
      Payload.decodeBytes Feature.decode feature.toJson.bytes = .ok drifted ∧
      feature.same drifted = false ∧ drifted.toJson.bytes ≠ feature.toJson.bytes := by
  intro text
  have hdrift : ((Draft.ofBytes? text).bind Feature.decode).any (fun feature =>
      ((Draft.ofBytes? feature.toJson.bytes).bind Feature.decode).any fun drifted =>
        feature.same drifted = false ∧ drifted.toJson.bytes ≠ feature.toJson.bytes) = true := by
    decide +kernel
  obtain ⟨feature, hfeature, hagain⟩ := (Option.any_eq_true _ _).mp hdrift
  obtain ⟨drifted, hdrifted, hdiffers⟩ := (Option.any_eq_true _ _).mp hagain
  refine ⟨feature, drifted, ?_, ?_, of_decide_eq_true hdiffers⟩
  · rw [Payload.decodeBytes, hfeature]
  · rw [Payload.decodeBytes, hdrifted]

end FeatureFlags
