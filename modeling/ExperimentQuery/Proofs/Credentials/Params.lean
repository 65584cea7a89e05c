import ExperimentQuery.Datasource
import ExperimentQuery.Proofs.Credentials.Sealing
import ExperimentQuery.Proofs.Json.Text

/-!
# Connection params opened again

Whatever a master key has sealed it opens, for texts of any characters in the params and with white
space around the sealed text. A text that it does not open is no base 64, too short, not sealed
under the key, or sealed around something else; a datasource then has empty params and says so.

* `ConnectionParams.ofBytes?_ofString`: params through their JSON form;
* `ConnectionParams.Unopened`, **`ConnectionParams.openText_eq_error_iff`**: why a text gives none;
* **`ConnectionParams.openText_sealedText`**: sealed params opened;
* **`OpenDatasource.ofKey_openText`**: the params of a datasource.
-/

namespace ExperimentQuery

namespace ConnectionParams

/-! ## The JSON form -/

theorem ofJson?_toJson (p : ConnectionParams) : ofJson? p.toJson = some p := rfl

theorem ofBytes?_ofString (p : ConnectionParams) :
    ofBytes? (.ofString p.toJson.compact) = some p := by
  have htexts : p.toJson = .obj (Json.textMembers
      [("projectId", p.projectId), ("secret", p.secret), ("username", p.username)]) := rfl
  rw [ofBytes?, Json.parseBytesWithFlaws?, Json.textOfBytes_ofString, htexts,
    Json.parseWithFlaws?_textMembers, Option.bind_some, ← htexts, ofJson?_toJson]

/-- A byte of no character does no harm in a member that is not read. -/
example :
    ofBytes? (Bytes.ofString "\x7b\"note\":\"" ++
      0xff :: Bytes.ofString "\",\"secret\":\"s\"\x7d") = some { secret := "s" } := by cbv

/-! ## Texts that are not opened -/

/-- Why a text gives no connection params under a key. -/
inductive Unopened (key : Key) (text : String) : SealError → Prop
  /-- It is no base 64. -/
  | notBase64 (hread : Base64.read? text = none) : Unopened key text .invalidCiphertext
  /-- Nothing follows the nonce. -/
  | short {bs : Bytes} (hread : Base64.read? text = some bs) (hshort : bs.length ≤ 12) :
    Unopened key text .invalidCiphertext
  /-- What follows the nonce has not been sealed with it under the key. -/
  | forged {nonce bs : Bytes} (hread : Base64.read? text = some (nonce ++ bs))
    (hnonce : nonce.length = 12) (hbs : bs ≠ [])
    (hforged : ∀ plain, bs ≠ Gcm.sealBytes (Aes.encrypt key.bytes) nonce plain) :
    Unopened key text .decryptionFailed
  /-- What has been sealed is not the JSON form of connection params. -/
  | noParams {nonce plain : Bytes}
    (hread : Base64.read? text =
      some (nonce ++ Gcm.sealBytes (Aes.encrypt key.bytes) nonce plain))
    (hnonce : nonce.length = 12) (hplain : ofBytes? plain = none) :
    Unopened key text .invalidParams

section

variable {key : Key} {text : String} {nonce bs plain : Bytes}

theorem openText_of_notBase64 (hread : Base64.read? text = none) :
    openText key text = .error .invalidCiphertext := by
  rw [openText, ExperimentQuery.openText, hread]

theorem openText_of_short (hread : Base64.read? text = some bs) (hshort : bs.length ≤ 12) :
    openText key text = .error .invalidCiphertext := by
  have hopen : ExperimentQuery.openText key text = .error .invalidCiphertext := by
    simp only [ExperimentQuery.openText, hread]
    exact if_pos hshort
  rw [openText, hopen]

theorem openText_of_forged (hread : Base64.read? text = some (nonce ++ bs))
    (hnonce : nonce.length = 12) (hbs : bs ≠ [])
    (hnone : Gcm.openBytes? (Aes.encrypt key.bytes) nonce bs = none) :
    openText key text = .error .decryptionFailed := by
  rw [openText, ExperimentQuery.openText_of_read? hread hnonce hbs, hnone, Option.elim_none]

theorem openText_of_plain (hread : Base64.read? text = some (nonce ++ bs))
    (hnonce : nonce.length = 12) (hbs : bs ≠ [])
    (hplain : Gcm.openBytes? (Aes.encrypt key.bytes) nonce bs = some plain) :
    openText key text = (ofBytes? plain).elim (.error .invalidParams) .ok := by
  rw [openText, ExperimentQuery.openText_of_read? hread hnonce hbs, hplain, Option.elim_some]
  dsimp only
  cases ofBytes? plain <;> rfl

theorem Unopened.openText_eq {e : SealError} (h : Unopened key text e) :
    openText key text = .error e := by
  cases h with
  | notBase64 hread => exact openText_of_notBase64 hread
  | short hread hshort => exact openText_of_short hread hshort
  | forged hread hnonce hbs hforged =>
    refine openText_of_forged hread hnonce hbs (Option.eq_none_iff_forall_ne_some.mpr ?_)
    exact fun plain hopen => hforged plain ((Gcm.openBytes?_eq_some_iff _).mp hopen)
  | noParams hread hnonce hplain =>
    rw [openText_of_plain hread hnonce (Gcm.sealBytes_ne_nil _ _ _)
      ((Gcm.openBytes?_eq_some_iff _).mpr rfl), hplain, Option.elim_none]

theorem exists_ok_or_unopened (key : Key) (text : String) :
    (∃ p, openText key text = .ok p) ∨ ∃ e, Unopened key text e := by
  cases hread : Base64.read? text with
  | none => exact .inr ⟨_, .notBase64 hread⟩
  | some bs =>
    by_cases hshort : bs.length ≤ 12
    · exact .inr ⟨_, .short hread hshort⟩
    · have hnonce : (bs.take 12).length = 12 := by rw [List.length_take]; omega
      have hbs : bs.drop 12 ≠ [] := fun hnil => hshort (List.drop_eq_nil_iff.mp hnil)
      rw [← List.take_append_drop 12 bs] at hread
      cases hopen : Gcm.openBytes? (Aes.encrypt key.bytes) (bs.take 12) (bs.drop 12) with
      | none =>
        refine .inr ⟨_, .forged hread hnonce hbs fun plain heq => ?_⟩
        rw [(Gcm.openBytes?_eq_some_iff _).mpr heq] at hopen
        cases hopen
      | some plain =>
        cases hplain : ofBytes? plain with
        | none =>
          rw [(Gcm.openBytes?_eq_some_iff _).mp hopen] at hread
          exact .inr ⟨_, .noParams hread hnonce hplain⟩
        | some p =>
          refine .inl ⟨p, ?_⟩
          rw [openText_of_plain hread hnonce hbs hopen, hplain, Option.elim_some]

/-- **Why a text gives no connection params.** -/
theorem openText_eq_error_iff {e : SealError} :
    openText key text = .error e ↔ Unopened key text e := by
  refine ⟨fun h => ?_, Unopened.openText_eq⟩
  rcases exists_ok_or_unopened key text with ⟨p, hp⟩ | ⟨e', he'⟩
  · rw [hp] at h
    cases h
  · rw [he'.openText_eq] at h
    cases h
    exact he'

end

/-- **Sealed params are opened**, with white space around their text. -/
theorem openText_sealedText {before after : String} (hbefore : before.toList.all Unicode.isBlank)
    (hafter : after.toList.all Unicode.isBlank) (key : Key) (nonce : Nonce)
    (p : ConnectionParams) :
    openText key (before ++ p.sealedText key nonce ++ after) = .ok p := by
  rw [openText, sealedText, ExperimentQuery.openText_sealedText hbefore hafter]
  simp only [ofBytes?_ofString]

end ConnectionParams

/-! ## Datasources -/

namespace OpenDatasource

theorem ofKey_of_ok {d : Datasource} {key : Key} {p : ConnectionParams}
    (h : ConnectionParams.openText key d.params = .ok p) :
    ofKey d key = ⟨{ d with events := d.events.withDefaults }, p, false⟩ := by
  simp only [ofKey, h]

theorem ofKey_of_error {d : Datasource} {key : Key} {e : SealError}
    (h : ConnectionParams.openText key d.params = .error e) :
    ofKey d key = ⟨{ d with events := d.events.withDefaults }, {}, true⟩ := by
  simp only [ofKey, h]

/-- **A datasource has the params that were sealed under its key.** From a text that the key does
not open it has empty ones, and it says so, whatever the reason. -/
theorem ofKey_openText (d : Datasource) (key : Key) :
    (∀ (nonce : Nonce) (p : ConnectionParams) (before after : String),
      before.toList.all Unicode.isBlank → after.toList.all Unicode.isBlank →
      d.params = before ++ p.sealedText key nonce ++ after →
        ConnectionParams.openText key d.params = .ok p ∧
        ofKey d key = ⟨{ d with events := d.events.withDefaults }, p, false⟩) ∧
    (∀ e, ConnectionParams.openText key d.params = .error e ↔
      ConnectionParams.Unopened key d.params e) ∧
    ∀ e, ConnectionParams.openText key d.params = .error e →
      ofKey d key = ⟨{ d with events := d.events.withDefaults }, {}, true⟩ := by
  refine ⟨fun nonce p before after hbefore hafter hparams => ?_,
    fun e => ConnectionParams.openText_eq_error_iff, fun e => ofKey_of_error⟩
  have hopen : ConnectionParams.openText key d.params = .ok p := by
    rw [hparams]
    exact ConnectionParams.openText_sealedText hbefore hafter key nonce p
  exact ⟨hopen, ofKey_of_ok hopen⟩

/-- Params with quotes, a control character and letters beyond ASCII, sealed, with white space
around the text; and a text that is too short. -/
theorem ofKey_openText_padded :
    let key : Key := 7
    let p : ConnectionParams := ⟨"a\"b\\", "\x01ü€😀", ""⟩
    let d : Datasource := { id := "d", params := " \n" ++ p.sealedText key 5 ++ "\t" }
    let short : Datasource := { id := "e", params := "AAAA" }
    (ConnectionParams.openText key d.params = .ok p ∧
      ofKey d key = ⟨{ d with events := d.events.withDefaults }, p, false⟩) ∧
    (ConnectionParams.openText key short.params = .error .invalidCiphertext ∧
      ofKey short key = ⟨{ short with events := short.events.withDefaults }, {}, true⟩) := by
  intro key p d short
  have hread : Base64.read? short.params = some [0, 0, 0] := by decide
  have hshort := ((ofKey_openText short key).2.1 .invalidCiphertext).mpr
    (.short hread (by decide))
  exact ⟨(ofKey_openText d key).1 5 p " \n" "\t" (by decide) (by decide) rfl, hshort,
    (ofKey_openText short key).2.2 _ hshort⟩

end OpenDatasource

end ExperimentQuery
