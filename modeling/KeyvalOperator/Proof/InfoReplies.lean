import KeyvalOperator.Clients.Redis
import KeyvalOperator.Lib.Text

/-!
# Replies to INFO

A server writes its fields as lines `key:value` with comments and blank lines between them
(`InfoLine`), and `parseInfoMap` reads the fields back.

* `parseInfoMap_render`: **every field is read back**, in whatever order they were written.
-/

namespace Keyval.Clients

open Go List

variable {key value : String}

/-! ## Rendering -/

/-- A line of a reply: a field, or a comment or blank line. -/
inductive InfoLine
  | field (key value : String)
  | other (text : String)
  deriving DecidableEq

/-- The line up to its newline; fields end with a carriage return and a newline. -/
def InfoLine.text : InfoLine → String
  | field key value => key ++ ":" ++ value ++ "\r"
  | other text => text

/-- The lines as one text. -/
def render (lines : List InfoLine) : String := String.join (lines.map fun line => line.text ++ "\n")

/-- The key is read as it is written. -/
structure InfoKey (key : String) : Prop where
  nonempty : key ≠ ""
  colon : ':' ∉ key.toList
  newline : '\n' ∉ key.toList
  unpadded : Unpadded key
  comment : ¬ hasPrefix key "#"

/-- The value is read as it is written. -/
structure InfoValue (value : String) : Prop where
  newline : '\n' ∉ value.toList
  unpadded : Unpadded value

/-- A comment or a blank line: its first character that is not a blank, if it has one, is `#`. -/
def Skipped (text : String) : Prop :=
  '\n' ∉ text.toList ∧ ∀ c ∈ (text.toList.dropWhile isSpace).head?, c = '#'

instance (text : String) : Decidable (Skipped text) :=
  decidable_of_iff
    ('\n' ∉ text.toList ∧ (text.toList.dropWhile isSpace).head?.all (decide <| · = '#'))
    (by simp [Skipped, Option.all_eq_true])

/-- The lines are the fields of the map in some order, with comments and blank lines between. -/
structure Renders (fields : Map String) (lines : List InfoLine) : Prop where
  entries : ∀ key value, .field key value ∈ lines ↔ fields.lookup key = some value
  others : ∀ text, .other text ∈ lines → Skipped text

/-! ## One line -/

theorem unpadded_field (hkey : InfoKey key) (hvalue : InfoValue value) :
    Unpadded (key ++ ":" ++ value) := by
  have htext : (key ++ ":" ++ value).toList = key.toList ++ ':' :: value.toList := by simp
  have hne : key.toList ≠ [] := by simpa using hkey.nonempty
  constructor
  · rw [htext, head?_append_of_ne_nil _ hne]
    exact hkey.unpadded.1
  · intro c hc
    rw [htext, getLast?_append, getLast?_cons, Option.some_or, Option.mem_some_iff] at hc
    cases hlast : value.toList.getLast? with
    | none =>
      rw [hlast] at hc
      subst hc
      decide
    | some d =>
      rw [hlast] at hc
      subst hc
      exact hvalue.unpadded.2 d hlast

theorem hasPrefix_comment_append {key : String} (hkey : InfoKey key) (s : String) :
    hasPrefix (key ++ s) "#" = false := by
  have hne : key.toList ≠ [] := by simpa using hkey.nonempty
  obtain ⟨c, rest, hlist⟩ := exists_cons_of_ne_nil hne
  rw [Bool.eq_false_iff]
  intro h
  apply hkey.comment
  rw [hasPrefix_iff, String.toList_append, hlist] at h
  rw [hasPrefix_iff, hlist]
  have hc : '#' = c := (cons_prefix_cons.1 h).1
  exact cons_prefix_cons.2 ⟨hc, List.nil_prefix⟩

theorem parseInfoLine_field (hkey : InfoKey key) (hvalue : InfoValue value) (out : Map String) :
    parseInfoLine out (InfoLine.field key value).text = out.insert key value := by
  have htrim : trimSpace (InfoLine.field key value).text = key ++ ":" ++ value :=
    trimSpace_padded (l := []) (r := ['\r']) (by simp [InfoLine.text]) (by simp)
      (by simp [isSpace]) (unpadded_field hkey hvalue)
  have hne : key ++ ":" ++ value ≠ "" := by simp
  have hcomment : hasPrefix (key ++ ":" ++ value) "#" = false := by
    rw [String.append_assoc]
    exact hasPrefix_comment_append hkey _
  have hcut : cut (key ++ ":" ++ value) ':' = some (key, value) :=
    cut_of_toList (by simp) hkey.colon
  unfold parseInfoLine
  simp only [htrim, hne, hcomment, hcut, false_or, Bool.false_eq_true, if_false]
  rw [if_pos hkey.nonempty, trimSpace_of_unpadded hkey.unpadded,
    trimSpace_of_unpadded hvalue.unpadded]

theorem parseInfoLine_skipped {text : String} (h : Skipped text) (out : Map String) :
    parseInfoLine out text = out := by
  have htrim : trimSpace text = "" ∨ hasPrefix (trimSpace text) "#" = true := by
    unfold trimSpace
    cases hrest : text.toList.dropWhile isSpace with
    | nil => exact .inl rfl
    | cons c rest =>
      right
      have hc : c = '#' := h.2 c (by rw [hrest]; rfl)
      subst hc
      -- the other end is trimmed up to the mark at most
      have hmark : ∃ l, (rest.reverse ++ ['#']).dropWhile isSpace = l ++ ['#'] := by
        rw [dropWhile_append]
        split
        · exact ⟨[], rfl⟩
        · exact ⟨_, rfl⟩
      obtain ⟨l, hl⟩ := hmark
      rw [reverse_cons, hl]
      simp [hasPrefix]
  exact if_pos htrim

/-! ## The reply -/

/-- The key of the line. -/
def InfoLine.key? : InfoLine → Option String
  | field key _ => some key
  | other _ => none

section
variable {fields : Map String} {lines : List InfoLine}

/-- The loop sets the fields of its lines, each to its value in the map, and no others. -/
theorem lookup_foldl_parseInfoLine (h : Renders fields lines)
    (hfields : ∀ key value, fields.lookup key = some value → InfoKey key ∧ InfoValue value)
    (key : String) : ∀ (ls : List InfoLine) (out : Map String), (∀ line ∈ ls, line ∈ lines) →
      ((ls.map InfoLine.text).foldl parseInfoLine out).lookup key =
        if key ∈ ls.filterMap InfoLine.key? then fields.lookup key else out.lookup key := by
  intro ls
  induction ls with
  | nil => simp
  | cons line ls ih =>
    intro out hls
    have hrest : ∀ line ∈ ls, line ∈ lines := fun l hl => hls l (.tail _ hl)
    rw [map_cons, foldl_cons, ih _ hrest]
    cases line with
    | other text =>
      have hskip : parseInfoLine out (InfoLine.other text).text = out :=
        parseInfoLine_skipped (h.others text (hls _ (.head _))) out
      rw [hskip]
      rfl
    | field k v =>
      have hlookup : fields.lookup k = some v := (h.entries k v).1 (hls _ (.head _))
      obtain ⟨hkey, hvalue⟩ := hfields k v hlookup
      have hkeys : key ∈ (InfoLine.field k v :: ls).filterMap InfoLine.key? ↔
          key = k ∨ key ∈ ls.filterMap InfoLine.key? := by
        simp [InfoLine.key?]
      rw [parseInfoLine_field hkey hvalue]
      simp only [hkeys]
      by_cases hk : key = k
      · subst hk
        simp [hlookup]
      · rw [Finmap.lookup_insert_of_ne _ hk]
        simp only [hk, false_or]

/-- **Every field is read back** from the lines of a map, in whatever order they are, with comments
and blank lines between them; the client takes the reply for what the fields say. -/
theorem parseInfoMap_render (fields : Map String) (lines : List InfoLine)
    (hfields : ∀ key value, fields.lookup key = some value → InfoKey key ∧ InfoValue value)
    (h : Renders fields lines) : parseInfoMap (render lines) = fields ∧
      replicationInfo (render lines) = replicationFields fields := by
  have hnewline : ∀ line ∈ lines.map InfoLine.text, '\n' ∉ line.toList := by
    intro line hline
    obtain ⟨infoLine, hmem, rfl⟩ := mem_map.1 hline
    cases infoLine with
    | other text => exact (h.others text hmem).1
    | field key value =>
      obtain ⟨hkey, hvalue⟩ := hfields key value ((h.entries key value).1 hmem)
      simp [InfoLine.text, hkey.newline, hvalue.newline]
  have htext : render lines = String.join ((lines.map InfoLine.text).map (· ++ "\n")) := by
    rw [render, map_map]
    rfl
  have hempty (out : Map String) : parseInfoLine out "" = out :=
    parseInfoLine_skipped (by decide) out
  have hparse : parseInfoMap (render lines) = fields := by
    unfold parseInfoMap
    rw [htext, split_lines hnewline, foldl_append, foldl_cons, foldl_nil, hempty]
    apply Finmap.ext_lookup
    intro key
    rw [lookup_foldl_parseInfoLine h hfields key lines ∅ fun _ hline => hline]
    split
    · rfl
    · next hnone =>
      cases hlookup : fields.lookup key with
      | none => rfl
      | some value =>
        have hmem : InfoLine.field key value ∈ lines := (h.entries key value).2 hlookup
        exact (hnone (mem_filterMap.2 ⟨_, hmem, rfl⟩)).elim
  exact ⟨hparse, by rw [replicationInfo, hparse]⟩

/-- A reply of a replica. -/
def replyLines : List InfoLine :=
  [.other "# Replication\r", .field "role" "slave", .other "\r", .field "master_host" "fd00::1"]

/-- Its fields. -/
def replyFields : Map String := (Finmap.singleton "role" "slave").insert "master_host" "fd00::1"

theorem lookup_replyFields : replyFields.lookup key = some value ↔
    key = "master_host" ∧ value = "fd00::1" ∨ key = "role" ∧ value = "slave" := by
  unfold replyFields
  by_cases hhost : key = "master_host"
  · subst hhost
    simp [eq_comm]
  · rw [Finmap.lookup_insert_of_ne _ hhost]
    by_cases hrole : key = "role"
    · subst hrole
      simp [eq_comm]
    · have hnone : (Finmap.singleton "role" "slave" : Map String).lookup key = none :=
        Finmap.lookup_eq_none.2 (by simpa using hrole)
      simp [hnone, hhost, hrole]

theorem parseInfoMap_replyLines :
    Renders replyFields replyLines ∧ parseInfoMap (render replyLines) = replyFields ∧
      replicationInfo (render replyLines) = replicationFields replyFields := by
  have hrenders : Renders replyFields replyLines := by
    constructor
    · intro key value
      rw [lookup_replyFields]
      simp [replyLines, or_comm]
    · intro text htext
      simp only [replyLines, mem_cons, InfoLine.other.injEq, reduceCtorEq, not_mem_nil,
        or_false, false_or] at htext
      rcases htext with rfl | rfl <;> decide
  refine ⟨hrenders, parseInfoMap_render replyFields replyLines ?_ hrenders⟩
  intro key value h
  rcases lookup_replyFields.1 h with ⟨rfl, rfl⟩ | ⟨rfl, rfl⟩
  · exact ⟨⟨by decide, by decide, by decide, by decide, by decide⟩, ⟨by decide, by decide⟩⟩
  · exact ⟨⟨by decide, by decide, by decide, by decide, by decide⟩, ⟨by decide, by decide⟩⟩

end

end Keyval.Clients
