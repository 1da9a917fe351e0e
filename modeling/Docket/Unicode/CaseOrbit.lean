/-
Simple case folding: the sets of code points that differ only in case.
Most are pairs, and pairs come in runs, so the table lists runs.
-/

namespace Docket.Unicode

/-- A run of case pairs: `count` code points from `first` on, every
`step`-th one, each paired with the code point `shift` above it (below it
when `down`). -/
structure CaseRun where
  first : Nat
  count : Nat
  step : Nat
  down : Bool
  shift : Nat

/-- The case pairs, run by run. -/
def caseRuns : List CaseRun := [
  ⟨0x0041, 10, 1, false, 32⟩,
  ⟨0x004C, 7, 1, false, 32⟩,
  ⟨0x0054, 7, 1, false, 32⟩,
  ⟨0x00C0, 5, 1, false, 32⟩,
  ⟨0x00C6, 17, 1, false, 32⟩,
  ⟨0x00D8, 7, 1, false, 32⟩,
  ⟨0x0100, 24, 2, false, 1⟩,
  ⟨0x0132, 3, 2, false, 1⟩,
  ⟨0x0139, 8, 2, false, 1⟩,
  ⟨0x014A, 23, 2, false, 1⟩,
  ⟨0x0178, 1, 1, true, 121⟩,
  ⟨0x0179, 3, 2, false, 1⟩,
  ⟨0x0181, 1, 1, false, 210⟩,
  ⟨0x0182, 2, 2, false, 1⟩,
  ⟨0x0186, 1, 1, false, 206⟩,
  ⟨0x0187, 1, 1, false, 1⟩,
  ⟨0x0189, 2, 1, false, 205⟩,
  ⟨0x018B, 1, 1, false, 1⟩,
  ⟨0x018E, 1, 1, false, 79⟩,
  ⟨0x018F, 1, 1, false, 202⟩,
  ⟨0x0190, 1, 1, false, 203⟩,
  ⟨0x0191, 1, 1, false, 1⟩,
  ⟨0x0193, 1, 1, false, 205⟩,
  ⟨0x0194, 1, 1, false, 207⟩,
  ⟨0x0196, 1, 1, false, 211⟩,
  ⟨0x0197, 1, 1, false, 209⟩,
  ⟨0x0198, 1, 1, false, 1⟩,
  ⟨0x019C, 1, 1, false, 211⟩,
  ⟨0x019D, 1, 1, false, 213⟩,
  ⟨0x019F, 1, 1, false, 214⟩,
  ⟨0x01A0, 3, 2, false, 1⟩,
  ⟨0x01A6, 1, 1, false, 218⟩,
  ⟨0x01A7, 1, 1, false, 1⟩,
  ⟨0x01A9, 1, 1, false, 218⟩,
  ⟨0x01AC, 1, 1, false, 1⟩,
  ⟨0x01AE, 1, 1, false, 218⟩,
  ⟨0x01AF, 1, 1, false, 1⟩,
  ⟨0x01B1, 2, 1, false, 217⟩,
  ⟨0x01B3, 2, 2, false, 1⟩,
  ⟨0x01B7, 1, 1, false, 219⟩,
  ⟨0x01B8, 1, 1, false, 1⟩,
  ⟨0x01BC, 1, 1, false, 1⟩,
  ⟨0x01CD, 8, 2, false, 1⟩,
  ⟨0x01DE, 9, 2, false, 1⟩,
  ⟨0x01F4, 1, 1, false, 1⟩,
  ⟨0x01F6, 1, 1, true, 97⟩,
  ⟨0x01F7, 1, 1, true, 56⟩,
  ⟨0x01F8, 20, 2, false, 1⟩,
  ⟨0x0220, 1, 1, true, 130⟩,
  ⟨0x0222, 9, 2, false, 1⟩,
  ⟨0x023A, 1, 1, false, 10795⟩,
  ⟨0x023B, 1, 1, false, 1⟩,
  ⟨0x023D, 1, 1, true, 163⟩,
  ⟨0x023E, 1, 1, false, 10792⟩,
  ⟨0x0241, 1, 1, false, 1⟩,
  ⟨0x0243, 1, 1, true, 195⟩,
  ⟨0x0244, 1, 1, false, 69⟩,
  ⟨0x0245, 1, 1, false, 71⟩,
  ⟨0x0246, 5, 2, false, 1⟩,
  ⟨0x0370, 2, 2, false, 1⟩,
  ⟨0x0376, 1, 1, false, 1⟩,
  ⟨0x037F, 1, 1, false, 116⟩,
  ⟨0x0386, 1, 1, false, 38⟩,
  ⟨0x0388, 3, 1, false, 37⟩,
  ⟨0x038C, 1, 1, false, 64⟩,
  ⟨0x038E, 2, 1, false, 63⟩,
  ⟨0x0391, 2, 2, false, 32⟩,
  ⟨0x0394, 2, 2, false, 32⟩,
  ⟨0x0397, 1, 1, false, 32⟩,
  ⟨0x039B, 2, 2, false, 32⟩,
  ⟨0x039E, 2, 1, false, 32⟩,
  ⟨0x03A4, 2, 1, false, 32⟩,
  ⟨0x03A7, 2, 1, false, 32⟩,
  ⟨0x03AA, 2, 1, false, 32⟩,
  ⟨0x03CF, 1, 1, false, 8⟩,
  ⟨0x03D8, 12, 2, false, 1⟩,
  ⟨0x03F7, 1, 1, false, 1⟩,
  ⟨0x03F9, 1, 1, true, 7⟩,
  ⟨0x03FA, 1, 1, false, 1⟩,
  ⟨0x03FD, 3, 1, true, 130⟩,
  ⟨0x0400, 16, 1, false, 80⟩,
  ⟨0x0410, 2, 1, false, 32⟩,
  ⟨0x0413, 2, 2, false, 32⟩,
  ⟨0x0416, 8, 1, false, 32⟩,
  ⟨0x041F, 2, 1, false, 32⟩,
  ⟨0x0423, 7, 1, false, 32⟩,
  ⟨0x042B, 5, 1, false, 32⟩,
  ⟨0x0460, 1, 1, false, 1⟩,
  ⟨0x0464, 15, 2, false, 1⟩,
  ⟨0x048A, 27, 2, false, 1⟩,
  ⟨0x04C0, 1, 1, false, 15⟩,
  ⟨0x04C1, 7, 2, false, 1⟩,
  ⟨0x04D0, 48, 2, false, 1⟩,
  ⟨0x0531, 38, 1, false, 48⟩,
  ⟨0x10A0, 38, 1, false, 7264⟩,
  ⟨0x10C7, 1, 1, false, 7264⟩,
  ⟨0x10CD, 1, 1, false, 7264⟩,
  ⟨0x13F8, 6, 1, true, 8⟩,
  ⟨0x1C89, 1, 1, false, 1⟩,
  ⟨0x1C90, 43, 1, true, 3008⟩,
  ⟨0x1CBD, 3, 1, true, 3008⟩,
  ⟨0x1E00, 48, 2, false, 1⟩,
  ⟨0x1E62, 26, 2, false, 1⟩,
  ⟨0x1E9E, 1, 1, true, 7615⟩,
  ⟨0x1EA0, 48, 2, false, 1⟩,
  ⟨0x1F08, 8, 1, true, 8⟩,
  ⟨0x1F18, 6, 1, true, 8⟩,
  ⟨0x1F28, 8, 1, true, 8⟩,
  ⟨0x1F38, 8, 1, true, 8⟩,
  ⟨0x1F48, 6, 1, true, 8⟩,
  ⟨0x1F59, 4, 2, true, 8⟩,
  ⟨0x1F68, 8, 1, true, 8⟩,
  ⟨0x1F88, 8, 1, true, 8⟩,
  ⟨0x1F98, 8, 1, true, 8⟩,
  ⟨0x1FA8, 8, 1, true, 8⟩,
  ⟨0x1FB8, 2, 1, true, 8⟩,
  ⟨0x1FBA, 2, 1, true, 74⟩,
  ⟨0x1FBC, 1, 1, true, 9⟩,
  ⟨0x1FC8, 4, 1, true, 86⟩,
  ⟨0x1FCC, 1, 1, true, 9⟩,
  ⟨0x1FD3, 1, 1, true, 7235⟩,
  ⟨0x1FD8, 2, 1, true, 8⟩,
  ⟨0x1FDA, 2, 1, true, 100⟩,
  ⟨0x1FE3, 1, 1, true, 7219⟩,
  ⟨0x1FE8, 2, 1, true, 8⟩,
  ⟨0x1FEA, 2, 1, true, 112⟩,
  ⟨0x1FEC, 1, 1, true, 7⟩,
  ⟨0x1FF8, 2, 1, true, 128⟩,
  ⟨0x1FFA, 2, 1, true, 126⟩,
  ⟨0x1FFC, 1, 1, true, 9⟩,
  ⟨0x2132, 1, 1, false, 28⟩,
  ⟨0x2160, 16, 1, false, 16⟩,
  ⟨0x2183, 1, 1, false, 1⟩,
  ⟨0x24B6, 26, 1, false, 26⟩,
  ⟨0x2C00, 48, 1, false, 48⟩,
  ⟨0x2C60, 1, 1, false, 1⟩,
  ⟨0x2C62, 1, 1, true, 10743⟩,
  ⟨0x2C63, 1, 1, true, 3814⟩,
  ⟨0x2C64, 1, 1, true, 10727⟩,
  ⟨0x2C67, 3, 2, false, 1⟩,
  ⟨0x2C6D, 1, 1, true, 10780⟩,
  ⟨0x2C6E, 1, 1, true, 10749⟩,
  ⟨0x2C6F, 1, 1, true, 10783⟩,
  ⟨0x2C70, 1, 1, true, 10782⟩,
  ⟨0x2C72, 1, 1, false, 1⟩,
  ⟨0x2C75, 1, 1, false, 1⟩,
  ⟨0x2C7E, 2, 1, true, 10815⟩,
  ⟨0x2C80, 50, 2, false, 1⟩,
  ⟨0x2CEB, 2, 2, false, 1⟩,
  ⟨0x2CF2, 1, 1, false, 1⟩,
  ⟨0xA640, 5, 2, false, 1⟩,
  ⟨0xA64C, 17, 2, false, 1⟩,
  ⟨0xA680, 14, 2, false, 1⟩,
  ⟨0xA722, 7, 2, false, 1⟩,
  ⟨0xA732, 31, 2, false, 1⟩,
  ⟨0xA779, 2, 2, false, 1⟩,
  ⟨0xA77D, 1, 1, true, 35332⟩,
  ⟨0xA77E, 5, 2, false, 1⟩,
  ⟨0xA78B, 1, 1, false, 1⟩,
  ⟨0xA78D, 1, 1, true, 42280⟩,
  ⟨0xA790, 2, 2, false, 1⟩,
  ⟨0xA796, 10, 2, false, 1⟩,
  ⟨0xA7AA, 1, 1, true, 42308⟩,
  ⟨0xA7AB, 1, 1, true, 42319⟩,
  ⟨0xA7AC, 1, 1, true, 42315⟩,
  ⟨0xA7AD, 1, 1, true, 42305⟩,
  ⟨0xA7AE, 1, 1, true, 42308⟩,
  ⟨0xA7B0, 1, 1, true, 42258⟩,
  ⟨0xA7B1, 1, 1, true, 42282⟩,
  ⟨0xA7B2, 1, 1, true, 42261⟩,
  ⟨0xA7B3, 1, 1, false, 928⟩,
  ⟨0xA7B4, 8, 2, false, 1⟩,
  ⟨0xA7C4, 1, 1, true, 48⟩,
  ⟨0xA7C5, 1, 1, true, 42307⟩,
  ⟨0xA7C6, 1, 1, true, 35384⟩,
  ⟨0xA7C7, 2, 2, false, 1⟩,
  ⟨0xA7CB, 1, 1, true, 42343⟩,
  ⟨0xA7CC, 1, 1, false, 1⟩,
  ⟨0xA7D0, 1, 1, false, 1⟩,
  ⟨0xA7D6, 3, 2, false, 1⟩,
  ⟨0xA7DC, 1, 1, true, 42561⟩,
  ⟨0xA7F5, 1, 1, false, 1⟩,
  ⟨0xAB70, 80, 1, true, 38864⟩,
  ⟨0xFB05, 1, 1, false, 1⟩,
  ⟨0xFF21, 26, 1, false, 32⟩,
  ⟨0x10400, 40, 1, false, 40⟩,
  ⟨0x104B0, 36, 1, false, 40⟩,
  ⟨0x10570, 11, 1, false, 39⟩,
  ⟨0x1057C, 15, 1, false, 39⟩,
  ⟨0x1058C, 7, 1, false, 39⟩,
  ⟨0x10594, 2, 1, false, 39⟩,
  ⟨0x10C80, 51, 1, false, 64⟩,
  ⟨0x10D50, 22, 1, false, 32⟩,
  ⟨0x118A0, 32, 1, false, 32⟩,
  ⟨0x16E40, 32, 1, false, 32⟩,
  ⟨0x1E900, 34, 1, false, 34⟩]

/-- The sets of three or more code points that differ only in case. -/
def caseFamilies : List (List Nat) := [
  [0x006B, 0x004B, 0x212A],
  [0x0073, 0x0053, 0x017F],
  [0x00E5, 0x00C5, 0x212B],
  [0x01C6, 0x01C4, 0x01C5],
  [0x01C9, 0x01C7, 0x01C8],
  [0x01CC, 0x01CA, 0x01CB],
  [0x01F3, 0x01F1, 0x01F2],
  [0x03B2, 0x0392, 0x03D0],
  [0x03B5, 0x0395, 0x03F5],
  [0x03B8, 0x0398, 0x03D1, 0x03F4],
  [0x03B9, 0x0345, 0x0399, 0x1FBE],
  [0x03BA, 0x039A, 0x03F0],
  [0x03BC, 0x00B5, 0x039C],
  [0x03C0, 0x03A0, 0x03D6],
  [0x03C1, 0x03A1, 0x03F1],
  [0x03C3, 0x03A3, 0x03C2],
  [0x03C6, 0x03A6, 0x03D5],
  [0x03C9, 0x03A9, 0x2126],
  [0x0432, 0x0412, 0x1C80],
  [0x0434, 0x0414, 0x1C81],
  [0x043E, 0x041E, 0x1C82],
  [0x0441, 0x0421, 0x1C83],
  [0x0442, 0x0422, 0x1C84, 0x1C85],
  [0x044A, 0x042A, 0x1C86],
  [0x0463, 0x0462, 0x1C87],
  [0x1E61, 0x1E60, 0x1E9B],
  [0xA64B, 0x1C88, 0xA64A]]

/-- Every set of code points that differ only in case. -/
def caseOrbits : List (List Nat) :=
  caseRuns.flatMap (fun run => (List.range run.count).map fun i =>
    let c := run.first + i * run.step
    [c, if run.down then c - run.shift else c + run.shift]) ++ caseFamilies

end Docket.Unicode
