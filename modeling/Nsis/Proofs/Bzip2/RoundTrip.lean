import Mathlib.Data.List.Basic
import Nsis.Proofs.Bzip2.Symbols
import Nsis.Proofs.Bzip2.Verdict

/-!
# Decoding undoes encoding

Whatever a writer chooses for its blocks, decoding their bits gives what the contents of the blocks
stand for, one after the other. The bits behind the end of the data are not looked at.

## Main results

* `Nsis.Bzip2.Phase.leads_block` — the bits of a block lead to a block that holds its contents.
* `Nsis.Bzip2.verdict_serialise` — what a decoder makes of serialised blocks.
* `Nsis.Bzip2.decompress_serialise` — decoding undoes encoding.
-/

namespace Nsis.Bzip2

/-- **The bits of a block lead to a block that holds its contents.** -/
lemma Phase.leads_block (b : Block) :
    ∃ o, Leads .mark b.bits (.stop .ok (.writing o)) ∧ o.pending = 0 ∧ o.Holds b.contents := by
  have hne := b.contents_ne
  have hlen := length_lastColumn hne
  have hsymbols : 0 < (symbols b.contents).length :=
    List.length_pos_of_ne_nil (symbolsFor_ne_nil _ _ _)
  have hinit : (Gathering.init b.plan).Shows (usedBytes b.contents) [] :=
    Gathering.shows_init (length_usedBytes_le b.contents)
  obtain ⟨g, hwait, hgroup, hshows, -, -⟩ := awaitCode_eq (Gathering.inGroup_init b) hsymbols hinit
    .first (.code .first false 0 0)
  have hhead := leads_head b
  rw [hwait] at hhead
  have hbytes : ∀ x ∈ lastColumn b.contents, x ∈ usedBytes b.contents := fun x hx =>
    mem_usedBytes.2 (mem_of_mem_lastColumn hne hx)
  obtain ⟨c, order, hused⟩ := List.exists_cons_of_ne_nil (usedBytes_ne_nil hne)
  rw [hused] at hshows hbytes
  obtain ⟨retry, g', order', hcolumn, hplan, hshows'⟩ := leads_column hbytes
    (show Place.first ≠ .afterDigit by decide) hgroup hshows
    (show 0 + (symbolsFor ((usedBytes b.contents).length + 1) 0
        (moveToFront (c :: order) (lastColumn b.contents))).length ≤ (symbols b.contents).length by
      rw [symbols, hused, Nat.zero_add])
    (by rw [hlen, List.length_nil, Nat.zero_add]; exact b.length_contents)
  rw [List.replicate_zero, List.append_nil, List.nil_append] at hshows'
  -- the row of the block is inside it
  have horigin : g'.plan.origin.toNat = b.origin := by
    have h₁ := b.origin_lt
    have h₂ := b.length_contents
    simp only [maxBlock] at h₂
    rw [hplan, Block.plan, UInt32.toNat_ofNat']
    omega
  obtain ⟨o, hready, hpending, hholds⟩ := link_lastColumn hne b.length_contents b.row_origin
  have hend : endBlock retry g' = .stop .ok (.writing o) := by
    rw [endBlock, hshows'.finish_eq, horigin, hlen, if_neg (Nat.not_le.2 b.origin_lt), hready]
  rw [hend, ← hused] at hcolumn
  exact ⟨o, hhead.append hcolumn, hpending, hholds⟩

/-- **What a decoder makes of serialised blocks**: it writes what they stand for and reaches the end
of the data. -/
lemma verdict_serialise (blocks : List Block) {rest : List Bool} {r : BitReader} (hr : r.live ≤ 27)
    (hq : r.queue = serialise blocks ++ rest) :
    (verdict (.reading .mark) r).status = .streamEnd ∧
      (verdict (.reading .mark) r).output = blocks.flatMap Block.expansion := by
  induction blocks generalizing r with
  | nil =>
    obtain ⟨r', -, -, hrun⟩ := Phase.leads_endMark.run_eq hr hq
    rw [verdict_of_streamEnd hrun]
    exact ⟨rfl, rfl⟩
  | cons b blocks ih =>
    obtain ⟨o, hlead, hpending, hholds⟩ := Phase.leads_block b
    have hq' : r.queue = b.bits ++ (serialise blocks ++ rest) := by
      rw [hq, serialise, serialise, List.flatMap_cons, List.append_assoc, List.append_assoc,
        List.append_assoc]
    obtain ⟨r', hrest, hlive, hrun⟩ := hlead.run_eq hr hq'
    have hremainder := Output.remainder_of_holds hholds b.expand_contents
    rw [hpending, List.replicate_zero, List.nil_append] at hremainder
    obtain ⟨hstatus, houtput⟩ := ih hlive hrest
    rw [verdict_of_writing hrun (by decide) (by decide), verdict_writing_of_none hremainder,
      List.flatMap_cons, ← houtput]
    exact ⟨hstatus, rfl⟩

/-- **Decoding undoes encoding.** The bytes of serialised blocks, with any padding and any bytes
behind them, are decoded to what the blocks stand for, in order. -/
theorem decompress_serialise (blocks : List Block) (padding : List Bool) (more : Bytes) :
    decompress (pack (serialise blocks ++ padding) ++ more) = blocks.flatMap Block.expansion := by
  obtain ⟨n, hpack⟩ := toBits_pack (serialise blocks ++ padding)
  have hq : (BitReader.append {} (pack (serialise blocks ++ padding) ++ more)).queue =
      serialise blocks ++ (padding ++ List.replicate n false ++ toBits more) := by
    have hqueue : (BitReader.append {} (pack (serialise blocks ++ padding) ++ more)).queue =
        toBits (pack (serialise blocks ++ padding) ++ more) := rfl
    rw [hqueue, toBits_append, hpack, List.append_assoc, List.append_assoc, List.append_assoc]
  obtain ⟨hstatus, houtput⟩ := verdict_serialise blocks (Nat.zero_le _) hq
  have h := decompressFrom_eq (Stream.setInput {} (pack (serialise blocks ++ padding) ++ more)) #[]
    hstatus
  rw [decompress, h]
  exact houtput

end Nsis.Bzip2
