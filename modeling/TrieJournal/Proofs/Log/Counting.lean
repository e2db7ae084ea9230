import TrieJournal.Proofs.Log.Crash
import TrieJournal.Proofs.Log.Keeping
import TrieJournal.Proofs.Reading

/-!
# Counted lines

A line stays in the sink even if the flush behind it fails. Of several records each is counted
before the flush, but a single record behind it. So a writer's count falls behind the lines that the
sink has kept by one for each single record that was not flushed, and by nothing else.
-/

namespace TrieJournal.Log

/-! ### Attempts -/

namespace Writer

/-- A call, and how the sink behaves from then on. -/
structure Attempt where
  policy : SinkPolicy
  call : Call

def attempt (w : Writer) (a : Attempt) : Except SinkError Unit × Writer :=
  (w.withPolicy a.policy).perform a.call

def attemptAll (w : Writer) (attempts : List Attempt) : Writer :=
  attempts.foldl (fun w a => (w.attempt a).2) w

/-- The records whose lines the sink keeps during attempts, in the order of the lines. -/
def keptBy (w : Writer) : List Attempt → List Record
  | [] => []
  | a :: attempts =>
    (w.withPolicy a.policy).sink.kept a.call.records ++ (w.attempt a).2.keptBy attempts

def outcomes (w : Writer) : List Attempt → List (Call × Except SinkError Unit)
  | [] => []
  | a :: attempts => (a.call, (w.attempt a).1) :: (w.attempt a).2.outcomes attempts

/-- A single record was written, and then the flush failed. -/
def isUnflushed : Call × Except SinkError Unit → Bool
  | (.append _, .error .flushFailed) => true
  | _ => false

/-- A log that was just started, on any sink, or opened to be continued. -/
inductive Fresh : Writer → Prop where
  | started {sink : Sink} {w : Writer} (ok : start sink = .ok w) : Fresh w
  | opened (log : Bytes) : Fresh (opened log)

end Writer

/-! ### One call -/

namespace Writer

theorem appendAll_rowsWritten (w : Writer) (records : List Record) :
    (w.appendAll records).2.rowsWritten = w.rowsWritten + (w.sink.kept records).length := by
  induction records generalizing w with
  | nil => rfl
  | cons r records ih =>
    rw [appendAll, Sink.writeLine]
    by_cases keeps : w.sink.policy.keepsLine w.sink.text = true
    · rw [if_pos keeps, Sink.kept_of_keepsLine keeps, List.length_cons]
      have rest := ih ⟨{ w.sink with text := w.sink.text ++ recordLine r }, w.rowsWritten + 1⟩
      simp only at rest ⊢
      omega
    · rw [if_neg keeps, Sink.kept_of_refuses keeps]
      rfl

/-- A record on its own and as the only one of several end in the same way and leave the same sink
behind, but the first is not counted if the flush fails. -/
theorem append_appendAll (w : Writer) (r : Record) :
    (w.append r).1 = (w.appendAll [r]).1 ∧ (w.append r).2.sink = (w.appendAll [r]).2.sink ∧
      (w.appendAll [r]).2.rowsWritten =
        (w.append r).2.rowsWritten + if (w.append r).1 = .error .flushFailed then 1 else 0 := by
  refine ⟨?_, (append_sink w r).trans (appendAll_sink w [r]).symm, ?_⟩
  all_goals
    rw [append, appendAll, Sink.writeLine]
    by_cases keeps : w.sink.policy.keepsLine w.sink.text = true
    · by_cases flushes : w.sink.policy.flushes = true
      · simp [keeps, appendAll, Sink.flush, flushes]
      · simp [keeps, appendAll, Sink.flush, flushes]
    · simp [keeps]

theorem countP_append (r : Record) (result : Except SinkError Unit) :
    [(Call.append r, result)].countP isUnflushed =
      if result = .error .flushFailed then 1 else 0 := by
  match result with
  | .ok () => rfl
  | .error .writeFailed => rfl
  | .error .flushFailed => rfl

theorem perform_sink (w : Writer) (call : Call) :
    (w.perform call).2.sink = w.sink.keep call.records := by
  cases call with
  | append r => exact append_sink w r
  | appendAll records => exact appendAll_sink w records

theorem perform_rowsWritten (w : Writer) (call : Call) :
    (w.perform call).2.rowsWritten + [(call, (w.perform call).1)].countP isUnflushed =
      w.rowsWritten + (w.sink.kept call.records).length := by
  cases call with
  | append r =>
    obtain ⟨-, -, listed⟩ := append_appendAll w r
    rw [countP_append]
    exact listed.symm.trans (appendAll_rowsWritten w [r])
  | appendAll records => exact appendAll_rowsWritten w records

/-! ### Runs of calls -/

theorem attemptAll_text (w : Writer) (attempts : List Attempt) :
    (w.attemptAll attempts).sink.text =
      w.sink.text ++ (w.keptBy attempts).flatMap recordLine := by
  induction attempts generalizing w with
  | nil => exact (List.append_nil _).symm
  | cons a attempts ih =>
    have rest := ih (w.attempt a).2
    have here : (w.attempt a).2.sink = _ := perform_sink (w.withPolicy a.policy) a.call
    rw [keptBy, List.flatMap_append, ← List.append_assoc]
    rw [here] at rest
    exact rest

theorem attemptAll_rowsWritten (w : Writer) (attempts : List Attempt) :
    (w.attemptAll attempts).rowsWritten + (w.outcomes attempts).countP isUnflushed =
      w.rowsWritten + (w.keptBy attempts).length := by
  induction attempts generalizing w with
  | nil => rfl
  | cons a attempts ih =>
    have rest := ih (w.attempt a).2
    have here := perform_rowsWritten (w.withPolicy a.policy) a.call
    change (w.attempt a).2.rowsWritten + [(a.call, (w.attempt a).1)].countP isUnflushed =
      w.rowsWritten + _ at here
    change ((w.attempt a).2.attemptAll attempts).rowsWritten + _ = _
    rw [outcomes, keptBy, ← List.singleton_append, List.countP_append, List.length_append]
    omega

/-! ### Logs that are started or opened -/

theorem getLast?_reopen (log : Bytes) : (reopen log).getLast? = some Bytes.newline := by
  unfold reopen
  split
  · rw [headerLine_eq, List.getLast?_concat]
  · rename_i last ended
    split
    · rename_i same
      rw [ended, same]
    · exact List.getLast?_concat

theorem start_eq_ok {sink : Sink} {w : Writer} (ok : start sink = .ok w) :
    w = ⟨{ sink with text := sink.text ++ headerLine }, 0⟩ := by
  unfold start Sink.writeLine at ok
  by_cases keeps : sink.policy.keepsLine sink.text = true
  · simp only [if_pos keeps, bind_eq_ok] at ok
    obtain ⟨-, -, -, -, same⟩ := ok
    exact (Except.ok.inj same).symm
  · rw [if_neg keeps] at ok
    cases ok

theorem Fresh.rowsWritten {w : Writer} (fresh : w.Fresh) : w.rowsWritten = 0 := by
  cases fresh with
  | started ok => rw [start_eq_ok ok]
  | opened log => rfl

theorem Fresh.ended {w : Writer} (fresh : w.Fresh) :
    w.sink.text.getLast? = some Bytes.newline := by
  cases fresh with
  | started ok =>
    rw [start_eq_ok ok, headerLine_eq, ← List.append_assoc]
    exact List.getLast?_concat
  | opened log => exact getLast?_reopen log

theorem Fresh.rows_append {w : Writer} (fresh : w.Fresh) (records : List Record) :
    rows (w.sink.text ++ records.flatMap recordLine) =
      rows w.sink.text ++ records.map Row.ofRecord := by
  obtain ⟨text, same⟩ := List.getLast?_eq_some_iff.mp fresh.ended
  rw [same, List.append_assoc, List.singleton_append, rows_append_newline, rows_ended,
    rows_flatMap_recordLine]

/-- Whatever fails along a sequence of calls, the lines that the sink has kept are counted, all but
those of single records whose flush has failed. Only these tell whether a record is appended on its
own or as the only one of several. -/
theorem rowsWritten_attempts {w : Writer} (fresh : w.Fresh) (attempts : List Attempt) :
    let s := w.attemptAll attempts
    let kept := w.keptBy attempts
    s.sink.text = w.sink.text ++ kept.flatMap recordLine ∧
      rows s.sink.text = rows w.sink.text ++ kept.map Row.ofRecord ∧
      s.rowsWritten + (w.outcomes attempts).countP isUnflushed = kept.length ∧
      ∀ policy r,
        let alone := (s.withPolicy policy).append r
        let listed := (s.withPolicy policy).appendAll [r]
        alone.1 = listed.1 ∧ alone.2.sink = listed.2.sink ∧
          listed.2.rowsWritten =
            alone.2.rowsWritten + if alone.1 = .error .flushFailed then 1 else 0 := by
  intro s kept
  have text : s.sink.text = w.sink.text ++ kept.flatMap recordLine := w.attemptAll_text attempts
  have counted := w.attemptAll_rowsWritten attempts
  rw [fresh.rowsWritten, Nat.zero_add] at counted
  refine ⟨text, ?_, counted, fun policy r => (s.withPolicy policy).append_appendAll r⟩
  rw [text, fresh.rows_append]

/-- A record by itself whose flush fails, three of which two find room, one among others whose flush
fails, and one that is refused. Four lines are kept, and three of them are counted. -/
theorem rowsWritten_attempts_mixed :
    let first : Record := .ofPayload .put [0x41, 1] (some [0xC0]) .accountTrie
    let second : Record := .ofPayload .delete [0x61] none .snapshotAccount
    let stuck := SinkPolicy.limited false true none
    let narrow := SinkPolicy.limited false false (some 4)
    let attempts : List Attempt :=
      [⟨stuck, .append first⟩, ⟨narrow, .appendAll [second, first, second]⟩,
        ⟨stuck, .appendAll [second]⟩, ⟨narrow, .append first⟩]
    ∃ w, start (.empty .reliable) = .ok w ∧
      let s := w.attemptAll attempts
      rows s.sink.text = [first, second, first, second].map Row.ofRecord ∧ s.rowsWritten = 3 ∧
        (s.outcomes [⟨stuck, .append second⟩, ⟨stuck, .appendAll [second]⟩]).map Prod.snd =
          [.error .flushFailed, .error .flushFailed] := by
  intro first second stuck narrow attempts
  let w : Writer := ⟨⟨.reliable, headerLine⟩, 0⟩
  have ok : start (.empty .reliable) = .ok w := rfl
  obtain ⟨-, read, counted, -⟩ := rowsWritten_attempts (.started ok) attempts
  have kept : w.keptBy attempts = [first, second, first, second] := by decide +kernel
  have unflushed : (w.outcomes attempts).countP isUnflushed = 1 := by decide +kernel
  have header : rows w.sink.text = [] := by decide +kernel
  rw [kept, header, List.nil_append] at read
  rw [kept, unflushed] at counted
  exact ⟨w, ok, read, Nat.succ.inj counted, by decide +kernel⟩

/-- The flush behind a record fails. Its line is in the log and is not counted, but it would be if
the record were the only one of several. -/
theorem unflushed_line_uncounted :
    let r : Record := .ofPayload .put [0x41, 1] (some [0xC0]) .accountTrie
    let stuck := SinkPolicy.limited false true none
    ∃ w, start (.empty .reliable) = .ok w ∧
      let alone := (w.withPolicy stuck).append r
      let listed := (w.withPolicy stuck).appendAll [r]
      alone.1 = listed.1 ∧ alone.2.sink.text = render [r] ∧ listed.2.sink.text = render [r] ∧
        (rows (render [r])).length = 1 ∧ alone.2.rowsWritten = 0 ∧ listed.2.rowsWritten = 1 := by
  intro r stuck
  refine ⟨⟨⟨.reliable, headerLine⟩, 0⟩, rfl, by decide +kernel, ?_, ?_, ?_, rfl, rfl⟩
  · decide +kernel
  · decide +kernel
  · rw [rows_render]
    rfl

end Writer

end TrieJournal.Log
