import SesSender.Proofs.Agreement

/-! What a `create_message` that is rejected or fails leaves in the database. The
contents are committed on their own, before the addresses are counted and before
the requests are inserted. -/

namespace Ses

open Calendar

variable {E : Env} {env : CreateEnv} {payload : CreateMessageRequest} {db : Db}

/-- The call answers with an error, or that the request insert failed. A call
without any address has nothing whose insert could fail. -/
def CreateResult.Failed (res : CreateResult) : Prop :=
  match res.response with
  | .error _ => True
  | .ok r => r.success = 0 ∧ r.errors = r.total ∧ 0 < r.total

/-- When the call fails, both tables hold the rows they held. -/
def CreateResult.LeavesNoTrace (res : CreateResult) (db : Db) : Prop :=
  res.Failed → res.db.contents.rows = db.contents.rows ∧ res.db.requests.rows = db.requests.rows

/-- Contents that stay behind a failed call. -/
theorem not_leavesNoTrace_of_append {res : CreateResult} {rows : List ContentRow}
    (hfailed : res.Failed) (hdb : res.db.contents = db.contents.append rows) (hrows : rows ≠ []) :
    ¬ res.LeavesNoTrace db := by
  intro h
  obtain ⟨hsame, -⟩ := h hfailed
  have hlen := congrArg List.length hsame
  rw [hdb, Table.append, List.length_append, List.length_mapIdx] at hlen
  exact hrows (List.length_eq_zero_iff.1 (by omega))

theorem leavesNoTrace_of_saved {res : CreateResult} {n : ℕ} {timed : Bool}
    (hsaved : res.response = .ok ⟨n, n, 0, timed⟩) : res.LeavesNoTrace db := by
  intro hfailed
  unfold CreateResult.Failed at hfailed
  rw [hsaved] at hfailed
  obtain ⟨hzero, -, hpos⟩ := hfailed
  exact absurd hzero hpos.ne'

theorem Responds.leavesNoTrace_iff {res : CreateResult} (h : Responds E env payload db res) :
    res.LeavesNoTrace db ↔ payload.messages = [] ∨ ¬ payload.ContentsFit env db ∨
      payload.total ≤ MAX_EMAILS_PER_REQUEST ∧ payload.RequestsFit E env db := by
  have hne : ∀ {rows : List ContentRow}, payload.messages ≠ [] → payload.ContentRows rows →
      rows ≠ [] := by
    rintro rows hmsgs hrows rfl
    exact hmsgs (List.length_eq_zero_iff.1 hrows.length.symm)
  cases h with
  | empty msgs => exact iff_of_true (fun _ => ⟨rfl, rfl⟩) (Or.inl msgs)
  | contentsFailed e msgs unfit => exact iff_of_true (fun _ => ⟨rfl, rfl⟩) (Or.inr (Or.inl unfit))
  | tooMany msgs fit contents many =>
    refine iff_of_false (not_leavesNoTrace_of_append trivial rfl (hne msgs contents)) ?_
    rintro (hnil | hunfit | ⟨hfew, -⟩)
    · exact msgs hnil
    · exact hunfit fit
    · omega
  | requestsFailed msgs fit contents few unfit =>
    have hpos : 0 < payload.total := Nat.pos_of_ne_zero fun h0 => unfit (Or.inl h0)
    refine iff_of_false (not_leavesNoTrace_of_append ⟨rfl, rfl, hpos⟩ rfl (hne msgs contents)) ?_
    rintro (hnil | hunfit | ⟨-, hfit⟩)
    · exact msgs hnil
    · exact hunfit fit
    · exact unfit hfit
  | scheduled msgs fit contents few fit' =>
    exact iff_of_true (leavesNoTrace_of_saved rfl) (Or.inr (Or.inr ⟨few, fit'⟩))
  | immediate msgs fit contents few fit' =>
    exact iff_of_true (leavesNoTrace_of_saved rfl) (Or.inr (Or.inr ⟨few, fit'⟩))

/-- A call that fails leaves the tables alone exactly when it fails before its
contents are committed. -/
theorem createMessage_leavesNoTrace_iff (E : Env) (env : CreateEnv)
    (payload : CreateMessageRequest) (db : Db) :
    (createMessage E env payload db).LeavesNoTrace db ↔
      payload.messages = [] ∨ ¬ payload.ContentsFit env db ∨
        payload.total ≤ MAX_EMAILS_PER_REQUEST ∧ payload.RequestsFit E env db :=
  (createMessage_responds E env payload db).leavesNoTrace_iff

/-- One mail to `n` addresses. -/
def crowdedMail (n : ℕ) : CreateMessageRequest :=
  ⟨[⟨some "a", List.replicate n "reader@example.com", "Hello", "<p>Hi</p>"⟩], none⟩

theorem total_crowdedMail (n : ℕ) : (crowdedMail n).total = n := by
  simp [crowdedMail, CreateMessageRequest.total]

theorem not_leavesNoTrace_crowded :
    ¬ (createMessage sampleEnv openEnv (crowdedMail 10001) Db.empty).LeavesNoTrace Db.empty := by
  have hfit : (crowdedMail 10001).ContentsFit openEnv Db.empty :=
    ⟨TxFaults.spares_none _, by decide⟩
  rw [(createMessage_responds _ _ _ _).leavesNoTrace_iff, total_crowdedMail]
  rintro (hnil | hunfit | ⟨hfew, -⟩)
  · cases hnil
  · exact hunfit hfit
  · exact absurd hfew (by decide)

end Ses
