import HttpJournal.Handler
import HttpJournal.Proofs.Decimal
import HttpJournal.Proofs.StandardLine
import HttpJournal.Proofs.TextParts

namespace HttpJournal

/-- A text that is an argument is never read as a format. -/
theorem sprintf_text (s : String) : sprintf "%s" [.string s] = .ok s := by
  have hdirective : Printf.directive [.string s] 0 ['s'] = .ok (s.toList, 1, []) := rfl
  have hformat : Printf.formatFrom [.string s] 0 "%s".toList = .ok s.toList := by
    rw [show "%s".toList = ['%', 's'] from rfl, Printf.formatFrom_directive hdirective,
      Printf.formatFrom, Printf.before, List.append_nil]
  rw [sprintf, hformat]
  exact congrArg Except.ok String.ofList_toList

/-- A journal line has no control characters, and so no line breaks. -/
theorem Formatter.le_of_mem_format {f : Formatter} {c : Context} {line : String}
    (h : f.format c = .ok line) : ∀ ch ∈ line.toList, 0x20 ≤ ch.toNat := by
  obtain ⟨l, hl, rfl⟩ := line_of_format h
  rw [Line.toList_json]
  exact (Line.fits_document (nodup_names_line hl)).le_of_mem_text

theorem not_mem_padded (width n : Nat) : '\n' ∉ Decimal.padded width n := fun h =>
  absurd (Decimal.isDigit_of_mem_padded h) (by decide)

theorem Date.not_mem_yearText (year : Int) : '\n' ∉ yearText year := by
  rw [yearText]
  split_ifs <;> simp [not_mem_padded]

theorem Zone.not_mem_stamp (z : Zone) (i : Instant) : '\n' ∉ z.stamp i := by
  simp [stamp, DateTime.text, Date.text, DateTime.clock, not_mem_padded, Date.not_mem_yearText]

theorem Level.not_mem_label (l : Level) : '\n' ∉ l.label.toList := by cases l <;> decide

theorem Notice.lines_of_not_mem {n : Notice} {stamp : Text} (h : '\n' ∉ n.text stamp) :
    n.lines stamp = [n.text stamp] := Text.splitOnChar_of_not_mem h

namespace Entry

def shown (stamp : Text) (entry : Entry) : Text :=
  '[' :: stamp ++ ']' :: ' ' :: entry.level.label.toList ++ ':' :: ' ' :: entry.message.toList

theorem not_mem_shown {stamp : Text} {entry : Entry} (hstamp : '\n' ∉ stamp)
    (hmessage : '\n' ∉ entry.message.toList) : '\n' ∉ entry.shown stamp := by
  simp [shown, hstamp, hmessage, Level.not_mem_label]

end Entry

namespace Console

theorem lines_singleton (c : Console) (stamp : Text) (n : Notice) :
    c.lines stamp [n] = if c.shows n then n.lines stamp else [] := by
  cases hshows : c.shows n <;> simp [lines, hshows]

theorem transcript_cons (c : Console) (stamp : Nat → Text) (n : Notice) (ns : List Notice) :
    c.transcript stamp (n :: ns) =
      c.lines (stamp 0) [n] ++ c.transcript (fun i => stamp (i + 1)) ns := by
  rw [transcript, List.mapIdx_cons, List.flatten_cons]
  rfl

theorem transcript_singleton (c : Console) (stamp : Nat → Text) (n : Notice) :
    c.transcript stamp [n] = c.lines (stamp 0) [n] := by
  rw [transcript_cons]
  exact List.append_nil _

end Console

namespace Handler

def entryOf (h : Handler) (e : Exchange) (line : String) : Entry where
  channel := h.logger.channel
  level := if e.error.isSome then .error else .info
  message := line

theorem entry_eq (h : Handler) (e : Exchange) (line : String) :
    h.entry e line = .ok (h.entryOf e line) := by
  rw [entry, Logger.log, sprintf_text]
  rfl

def line? (h : Handler) (hostName : String) (e : Exchange) : Option String :=
  (h.formatter.format (h.context hostName e)).toOption

theorem format_of_line {h : Handler} {hostName : String} {e : Exchange} {line : String}
    (hline : h.line? hostName e = some line) :
    h.formatter.format (h.context hostName e) = .ok line := by
  rw [line?] at hline
  cases hformat : h.formatter.format (h.context hostName e) with
  | error cause =>
    rw [hformat] at hline
    cases hline
  | ok text =>
    rw [hformat] at hline
    exact congrArg Except.ok (Option.some.inj hline)

theorem entry?_eq (h : Handler) (hostName : String) (e : Exchange) :
    h.entry? hostName e = (h.line? hostName e).map (h.entryOf e) := by
  unfold entry? line?
  cases h.formatter.format (h.context hostName e) with
  | error cause => rfl
  | ok line =>
    dsimp only
    rw [entry_eq]
    rfl

def handle (h : Handler) (hostName : String) (sink : List Entry) (e : Exchange) : List Entry :=
  sink ++ (h.entry? hostName e).toList

def handleAll (h : Handler) (hostName : String) (sink : List Entry) (es : List Exchange) :
    List Entry := es.foldl (h.handle hostName) sink

theorem handleAll_eq (h : Handler) (hostName : String) (sink : List Entry) (es : List Exchange) :
    h.handleAll hostName sink es =
      sink ++ es.filterMap fun e => (h.line? hostName e).map (h.entryOf e) := by
  induction es generalizing sink with
  | nil => exact (List.append_nil sink).symm
  | cons e es ih =>
    have hrest := ih (h.handle hostName sink e)
    rw [handle, entry?_eq, List.append_assoc] at hrest
    rw [handleAll, List.foldl_cons, handle, entry?_eq]
    refine hrest.trans (congrArg (sink ++ ·) ?_)
    cases hline : h.line? hostName e <;> simp [hline]

def remark : Notice := .plain .debug "Template references unknown placeholders"

theorem notices_eq {h : Handler} {hostName : String} {e : Exchange} {line : String}
    (hline : h.line? hostName e = some line) :
    h.notices hostName e =
      (if (h.formatter.expansion (h.context hostName e)).unknown.isEmpty then [] else [remark]) ++
        [(h.entryOf e line).notice] := by
  rw [notices, format_of_line hline]
  simp only [entry_eq]
  rfl

theorem lines_remark (c : Console) {stamp : Text} (hstamp : '\n' ∉ stamp) :
    c.lines stamp [remark] = if c.shows remark then [remark.text stamp] else [] := by
  have hmessage : '\n' ∉ remark.message.toList := by decide
  have hseverity : '\n' ∉ remark.severity.toList := by decide
  have htext : '\n' ∉ remark.text stamp := by simp [Notice.text, hstamp, hmessage, hseverity]
  rw [Console.lines_singleton, Notice.lines_of_not_mem htext]

theorem not_mem_shown {h : Handler} {hostName : String} {e : Exchange} {line : String}
    (hline : h.line? hostName e = some line) (z : Zone) (now : Instant) :
    '\n' ∉ (h.entryOf e line).shown (z.stamp now) := by
  apply Entry.not_mem_shown (z.not_mem_stamp now)
  intro hbreak
  exact absurd (Formatter.le_of_mem_format (format_of_line hline) _ hbreak) (by decide)

/-- Of the exchanges that a handler is given, the sink receives in their order one entry for each
that has a journal line: on the handler's channel, as an error if the exchange carries one and else
for information, and with the line as it is. A console that shows the entry has one line for it. The
exchange has no other line, unless the console shows what the formatter says of unknown names, which
has a stamp of its own. -/
theorem logs_each_once (h : Handler) (hostName : String) (sink : List Entry)
    (es : List Exchange) :
    h.handleAll hostName sink es =
        sink ++ es.filterMap (fun e => (h.line? hostName e).map (h.entryOf e)) ∧
      ∀ e line, h.line? hostName e = some line →
        ∀ (c : Console) (z : Zone), c.shows (h.entryOf e line).notice →
          (∀ now : Instant,
            '\n' ∉ (h.entryOf e line).shown (z.stamp now) ∧
            c.lines (z.stamp now) [(h.entryOf e line).notice] =
              [(h.entryOf e line).shown (z.stamp now)]) ∧
          ∀ clock : Nat → Instant,
            c.transcript (fun i => z.stamp (clock i)) (h.notices hostName e) =
              if (h.formatter.expansion (h.context hostName e)).unknown.isEmpty then
                [(h.entryOf e line).shown (z.stamp (clock 0))]
              else
                (if c.shows remark then [remark.text (z.stamp (clock 0))] else []) ++
                  [(h.entryOf e line).shown (z.stamp (clock 1))] := by
  refine ⟨h.handleAll_eq hostName sink es, ?_⟩
  intro e line hline c z hshows
  have hentry (now : Instant) : c.lines (z.stamp now) [(h.entryOf e line).notice] =
      [(h.entryOf e line).shown (z.stamp now)] := by
    rw [Console.lines_singleton, if_pos hshows]
    exact Notice.lines_of_not_mem (not_mem_shown hline z now)
  refine ⟨fun now => ⟨not_mem_shown hline z now, hentry now⟩, fun clock => ?_⟩
  rw [notices_eq hline]
  by_cases hknown : (h.formatter.expansion (h.context hostName e)).unknown.isEmpty
  · rw [if_pos hknown, if_pos hknown, List.nil_append, Console.transcript_singleton, hentry]
  · rw [if_neg hknown, if_neg hknown, List.singleton_append, Console.transcript_cons,
      Console.transcript_singleton, hentry, lines_remark c (z.not_mem_stamp _)]

def bodyHandler : Handler := ⟨Formatter.bodyOnly, ⟨"audit"⟩⟩

/-- An exchange that failed; its body reads like a format. -/
def refused : Exchange where
  request := { Formatter.rootExchange.exchange.request with
    body := .kept (Utf8.bytes "100%\n%2$s") }
  response := none
  error := some "refused"

/-- A clock in Greenwich that goes on by a second from one look to the next. -/
def ticking (i : Nat) : Text := (Zone.greenwich "UTC").stamp ⟨i, 0⟩

theorem logs_each_once_refused :
    let entry : Entry := ⟨"audit", .error, "\x7b\"body\":\"100%\\n%2$s\"\x7d"⟩
    bodyHandler.handleAll "localhost" [] [refused] = [entry] ∧
      (Console.mk (some .debug)).shows entry.notice ∧
      (Console.mk (some .debug)).transcript ticking (bodyHandler.notices "localhost" refused) =
        [entry.shown (ticking 0)] := by
  intro entry
  have hline : bodyHandler.line? "localhost" refused = some entry.message := by decide +kernel
  have hshows : (Console.mk (some .debug)).shows entry.notice := by decide
  have hknown : (bodyHandler.formatter.expansion
      (bodyHandler.context "localhost" refused)).unknown.isEmpty := by decide +kernel
  obtain ⟨hsink, hconsole⟩ := logs_each_once bodyHandler "localhost" [] [refused]
  obtain ⟨-, hlines⟩ := hconsole refused entry.message hline ⟨some .debug⟩ (.greenwich "UTC") hshows
  have htranscript := hlines fun i => ⟨i, 0⟩
  rw [if_pos hknown] at htranscript
  refine ⟨?_, hshows, htranscript⟩
  rw [hsink, List.filterMap_cons, hline]
  rfl

def unknownHandler : Handler := ⟨⟨⟨[("a", "\x7bnope\x7d")]⟩, .greenwich "UTC"⟩, .main⟩

def unanswered : Exchange := Formatter.rootExchange.exchange

/-- A console that shows everything has two lines for the exchange. -/
theorem not_single_line :
    ∃ line, unknownHandler.line? "localhost" unanswered = some line ∧
      (Console.mk (some .debug)).shows (unknownHandler.entryOf unanswered line).notice ∧
      ∀ stamp, (Console.mk (some .debug)).transcript ticking
          (unknownHandler.notices "localhost" unanswered) ≠
        [(unknownHandler.entryOf unanswered line).shown stamp] := by
  have hline : unknownHandler.line? "localhost" unanswered =
      some "\x7b\"a\":\"\"\x7d" := by decide +kernel
  have hlength : ((Console.mk (some .debug)).transcript ticking
      (unknownHandler.notices "localhost" unanswered)).length = 2 := by decide +kernel
  refine ⟨_, hline, by decide, fun stamp h => ?_⟩
  rw [h] at hlength
  cases hlength

end Handler

end HttpJournal
