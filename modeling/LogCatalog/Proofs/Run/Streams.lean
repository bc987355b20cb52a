import LogCatalog.Proofs.Row.Cells
import LogCatalog.Proofs.Run.ReadingAhead
import LogCatalog.Proofs.Text.Lines
import LogCatalog.Proofs.Text.Utf8

/-!
# Runs over streams

A run over a stream of bytes is a run over the lines of the text that the stream encodes.  Where the
stream is cut into chunks does not matter, and neither does whether its lines end in a line feed
alone or in a carriage return and a line feed.

* `Fetch.ofChunksFrom_bytes`: the fetches depend on the bytes of a stream and not on its chunks.
* `Fetch.linesFrom_encode`: the lines of an encoded text are its encoded lines.
* `after_congr`: what a run takes in depends on the columns of the lines.
* `map_columns?_withReturns`: a carriage return at the end of a line is in no column.
* `reading_streams`: all this put together.
-/

namespace LogCatalog.Run

open Row
open Text.Utf8 (encode decode encode_nil encode_cons encode_append encodeChar encodeChar_ne_nil)

/-! ### Lines of bytes -/

namespace Fetch

/-- The lines of a stream, as bytes.  `begun` is what came before, the last byte first. -/
def linesFrom (begun stream : List UInt8) : List (List UInt8) :=
  (cut begun stream).1 ++ if (cut begun stream).2 = [] then [] else [(cut begun stream).2.reverse]

def withReturns (stream : List UInt8) : List UInt8 :=
  Text.insertBefore lineFeed carriageReturn stream

theorem linesFrom_append (begun bytes more : List UInt8) :
    linesFrom begun (bytes ++ more) = (cut begun bytes).1 ++ linesFrom (cut begun bytes).2 more := by
  rw [linesFrom, linesFrom, cut_append, List.append_assoc]

/-- **It does not matter where a stream is cut into chunks.**  The induction is on the chunks, and
`begun` is the beginning of a line that reached over the chunks before. -/
theorem ofChunksFrom_bytes (begun : List UInt8) (pieces : List (List UInt8)) :
    ofChunksFrom false begun (pieces.map .bytes)
      = (linesFrom begun pieces.flatten).map fun line =>
          { cancelled := false, content := lineOf line } := by
  induction pieces generalizing begun with
  | nil =>
    rw [List.map_nil, ofChunksFrom, List.flatten_nil, linesFrom, cut]
    by_cases hnil : begun = []
    · simp only [hnil, if_true, List.append_nil, List.map_nil]
    · simp only [hnil, if_false, List.nil_append, List.map_cons, List.map_nil]
  | cons piece rest ih =>
    rw [List.flatten_cons, linesFrom_append, List.map_append, ← ih]
    rfl

theorem ofLines_eq_map (lines : List Text) :
    ofLines (fun _ => false) lines
      = lines.map fun line => { cancelled := false, content := .ok line } := by
  induction lines with
  | nil => rfl
  | cons line rest ih =>
    rw [ofLines] at ih ⊢
    rw [List.mapIdx_cons, List.map_cons, ← ih]

theorem cut_of_not_mem {bytes : List UInt8} (h : lineFeed ∉ bytes) (begun : List UInt8) :
    cut begun bytes = ([], bytes.reverse ++ begun) := by
  induction bytes generalizing begun with
  | nil => rfl
  | cons b rest ih =>
    obtain ⟨hb, hrest⟩ := List.ne_and_not_mem_of_not_mem_cons h
    rw [cut, if_neg (Ne.symm hb), ih hrest, List.reverse_cons, List.append_assoc]
    rfl

theorem linesFrom_of_not_mem {bytes : List UInt8} (h : lineFeed ∉ bytes) :
    linesFrom [] bytes = if bytes = [] then [] else [bytes] := by
  rw [linesFrom, cut_of_not_mem h]
  by_cases hnil : bytes = []
  · simp [hnil]
  · simp [hnil]

theorem linesFrom_append_cons {bytes : List UInt8} (h : lineFeed ∉ bytes) (rest : List UInt8) :
    linesFrom [] (bytes ++ lineFeed :: rest)
      = (dropReturn bytes.reverse).reverse :: linesFrom [] rest := by
  have hcut : cut [] (bytes ++ lineFeed :: rest)
      = ((dropReturn bytes.reverse).reverse :: (cut [] rest).1, (cut [] rest).2) := by
    rw [cut_append, cut_of_not_mem h, List.append_nil, cut, if_pos rfl]
    rfl
  rw [linesFrom, hcut]
  rfl

/-! ### Lines of an encoded text -/

theorem lineFeed_mem_encodeChar {c : Char} : lineFeed ∈ encodeChar c ↔ c = '\n' := by
  rw [Text.Utf8.mem_encodeChar_iff (by decide), ← Char.toNat_inj]
  rfl

theorem carriageReturn_mem_encodeChar {c : Char} : carriageReturn ∈ encodeChar c ↔ c = '\r' := by
  rw [Text.Utf8.mem_encodeChar_iff (by decide), ← Char.toNat_inj]
  rfl

theorem lineFeed_not_mem_encode {line : Text} (h : '\n' ∉ line) : lineFeed ∉ encode line := by
  intro hmem
  obtain ⟨c, hc, hfeed⟩ := List.mem_flatMap.1 hmem
  exact h (lineFeed_mem_encodeChar.1 hfeed ▸ hc)

theorem encode_append_cons (line rest : Text) :
    encode (line ++ '\n' :: rest) = encode line ++ lineFeed :: encode rest := by
  rw [encode_append, encode_cons]
  rfl

theorem dropReturn_encode (line : Text) :
    (dropReturn (encode line).reverse).reverse = encode (Text.withoutReturn line) := by
  rcases List.eq_nil_or_concat' line with rfl | ⟨front, c, rfl⟩
  · rfl
  rw [Text.withoutReturn_concat, encode_append, encode_cons, encode_nil, List.append_nil]
  by_cases hc : c = '\r'
  · subst hc
    have hreturn : (encode front ++ encodeChar '\r').reverse
        = carriageReturn :: (encode front).reverse := by
      rw [List.reverse_append]
      rfl
    rw [hreturn, dropReturn, if_pos rfl, if_pos rfl, List.reverse_reverse]
  · obtain ⟨bytes, b, hbytes⟩ := (List.eq_nil_or_concat' (encodeChar c)).resolve_left
      (encodeChar_ne_nil c)
    have hb : b ≠ carriageReturn := by
      rintro rfl
      apply hc
      rw [← carriageReturn_mem_encodeChar, hbytes]
      exact List.mem_append_right bytes (List.mem_singleton_self _)
    have hlast : (encode front ++ encodeChar c).reverse
        = b :: (encode front ++ bytes).reverse := by
      rw [hbytes, ← List.append_assoc, List.reverse_append]
      rfl
    rw [hlast, dropReturn, if_neg hb, ← hlast, List.reverse_reverse, if_neg hc, encode_append,
      encode_cons, encode_nil, List.append_nil]

/-- **The lines of an encoded text are its encoded lines.** -/
theorem linesFrom_encode (t : Text) : linesFrom [] (encode t) = (Text.lines t).map encode := by
  induction t using Text.piece_induction '\n' with
  | last line hline =>
    rw [linesFrom_of_not_mem (lineFeed_not_mem_encode hline), Text.lines_of_not_mem hline,
      apply_ite (List.map encode)]
    simp only [Text.Utf8.encode_eq_nil_iff, List.map_cons, List.map_nil]
  | next line rest hline ih =>
    rw [encode_append_cons, linesFrom_append_cons (lineFeed_not_mem_encode hline), ih,
      Text.lines_append_cons hline, dropReturn_encode, List.map_cons]

theorem ofChunks_encode {pieces : List (List UInt8)} {t : Text} (h : pieces.flatten = encode t) :
    ofChunks (pieces.map .bytes) = ofLines (fun _ => false) (Text.lines t) := by
  rw [ofChunks, ofChunksFrom_bytes, h, linesFrom_encode, ofLines_eq_map, List.map_map]
  refine List.map_congr_left fun line _ => ?_
  rw [Function.comp, lineOf, Text.Utf8.decode_encode]

theorem withReturns_encode (t : Text) : withReturns (encode t) = encode (Text.withReturns t) := by
  induction t with
  | nil => rfl
  | cons c rest ih =>
    have hchar : withReturns (encodeChar c) = encode (if c = '\n' then ['\r', c] else [c]) := by
      by_cases hc : c = '\n'
      · subst hc
        rfl
      · rw [withReturns, Text.insertBefore_of_not_mem (mt lineFeed_mem_encodeChar.1 hc), if_neg hc,
          encode_cons, encode_nil, List.append_nil]
    rw [withReturns] at hchar ih ⊢
    rw [Text.withReturns] at ih ⊢
    rw [encode_cons, Text.insertBefore_append, hchar, ih, Text.insertBefore_cons, encode_append]

end Fetch

/-! ### What the columns do not show -/

theorem drafts_congr (locales : Locales) {lines others : List Text}
    (h : lines.map columns? = others.map columns?) :
    drafts locales lines = drafts locales others := by
  apply List.ext_getElem?
  intro place
  have hdrafts : ∀ lines, (drafts locales lines)[place]?
      = ((lines.map columns?)[place]?).map fun columns =>
          columns.map fun cells => Draft.ofColumns locales cells (place + 1) := by
    intro lines
    rw [drafts, List.getElem?_mapIdx, List.getElem?_map, Option.map_map]
    rfl
  rw [hdrafts, hdrafts, h]

/-- What a run takes in depends on the columns of its lines. -/
theorem after_congr (locales : Locales) {lines others : List Text}
    (h : lines.map columns? = others.map columns?) :
    after locales lines = after locales others := by
  rw [← foldl_drafts, ← foldl_drafts, drafts_congr locales h]

/-- A carriage return at the end of a line is in no column. -/
theorem columns?_withoutReturn (line : Text) :
    columns? (Text.withoutReturn line) = columns? line := by
  rcases List.eq_nil_or_concat' line with rfl | ⟨front, c, rfl⟩
  · rfl
  rw [Text.withoutReturn_concat]
  split
  · next hc =>
    subst hc
    have hpadding : ∀ c ∈ ['\r'], Text.isPadding c = true := fun c hc => by
      rw [List.mem_singleton.1 hc]
      decide
    exact (columns?_padded (fun _ hmem => (List.not_mem_nil hmem).elim) hpadding front).symm
  · rfl

theorem map_columns?_withReturns (t : Text) :
    (Text.lines (Text.withReturns t)).map columns? = (Text.lines t).map columns? := by
  induction t using Text.piece_induction '\n' with
  | last line hline => rw [Text.withReturns, Text.insertBefore_of_not_mem hline]
  | next line rest hline ih =>
    rw [Text.lines_withReturns_append_cons hline, Text.lines_append_cons hline, List.map_cons,
      List.map_cons, ih, columns?_withoutReturn]

/-! ### Runs -/

theorem ofChunks_eq (locales : Locales) {pieces : List (List UInt8)} {t : Text}
    (h : pieces.flatten = encode t) :
    ofChunks locales (pieces.map .bytes)
      = conclude locales .reader (after locales (Text.lines t), none) := by
  rw [ofChunks, ofFetches, Fetch.ofChunks_encode h, takeIn_ofLines]
  rfl

/-- **A run over a stream is a run over its lines.**  Where the bytes of a stream encode a text, a
run over the stream reports and yields the same as a run over the lines of the text, apart from the
mode that it begins with, however the stream is cut into chunks.  It still does if every line feed of
the stream gets a carriage return before it, and however that stream is cut. -/
theorem reading_streams (locales : Locales) {stream : List UInt8} {t : Text}
    (hvalid : decode stream = some t) :
    ∃ events outcome,
      ofLines locales (Text.lines t) = ⟨.began locales.length .sequential :: events, outcome⟩
        ∧ (∀ pieces : List (List UInt8), pieces.flatten = stream →
            ofChunks locales (pieces.map .bytes)
              = ⟨.began locales.length .reader :: events, outcome⟩)
        ∧ ∀ pieces : List (List UInt8), pieces.flatten = Fetch.withReturns stream →
            ofChunks locales (pieces.map .bytes)
              = ⟨.began locales.length .reader :: events, outcome⟩ := by
  obtain rfl : stream = encode t := Text.Utf8.decode_eq_some_iff.1 hvalid
  have hlines := ofLines_eq locales (Text.lines t)
  rw [conclude_none] at hlines
  refine ⟨_, _, hlines, ?_, ?_⟩
  · intro pieces hpieces
    rw [ofChunks_eq locales hpieces, conclude_none]
  · intro pieces hpieces
    rw [Fetch.withReturns_encode] at hpieces
    rw [ofChunks_eq locales hpieces, after_congr locales (map_columns?_withReturns t),
      conclude_none]

/-- A row whose name has a letter of two bytes, with both kinds of line ends, and a comment whose
line does not end. -/
def cafeText : Text :=
  "1\tCafé.Opened\tInfo\t\tCafé opens" ++ List.replicate 12 '\t' ++ "\r\n\n# open all day"

/-- The bytes of the text, cut inside a letter and between a carriage return and a line feed. -/
def cafeChunks : List (List UInt8) :=
  [(encode cafeText).take 6, ((encode cafeText).take 45).drop 6, (encode cafeText).drop 45]

theorem reading_streams_cafe :
    decode (encode cafeText) = some cafeText
      ∧ cafeChunks.flatten = encode cafeText
      ∧ cafeChunks.map List.getLast? = [some 0xC3, some Fetch.carriageReturn, some 0x79]
      ∧ ∃ events outcome,
          ofLines ⟨[], by decide⟩ (Text.lines cafeText) = ⟨.began 0 .sequential :: events, outcome⟩
            ∧ (∀ pieces : List (List UInt8), pieces.flatten = encode cafeText →
                ofChunks ⟨[], by decide⟩ (pieces.map .bytes)
                  = ⟨.began 0 .reader :: events, outcome⟩)
            ∧ ∀ pieces : List (List UInt8),
                pieces.flatten = Fetch.withReturns (encode cafeText) →
                  ofChunks ⟨[], by decide⟩ (pieces.map .bytes)
                    = ⟨.began 0 .reader :: events, outcome⟩ :=
  ⟨Text.Utf8.decode_encode cafeText, by rfl, by rfl,
    reading_streams ⟨[], by decide⟩ (Text.Utf8.decode_encode cafeText)⟩

end LogCatalog.Run
