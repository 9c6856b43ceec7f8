import Lockstep.Text.Runs

/-!
# Properties of code points in labels

Marks, joining types and bidirectional classes (Unicode 15.1).
-/

namespace Lockstep.Idna

/-- Value 1 on the combining marks. -/
def marks : Runs := Runs.ofLines
  ["o0A3gB8jA7B87A1dB1A1B1A2B1A2B1A1B28AbB1gAlBgA1B35A7B2A6B2A2B1A4B13A1BuArB2rAbB1qA9B9A1BoA4B1A9",
   "B1A3B1A5B1bA3B1sA8B1aAoB1A11B1mA3B1AiB1A7BaA2BtA3B1oA1B1A7B2A2B2A3B9A1BaA2BqA1B2A3B1oA1B1A5B4A",
   "2B2A3B3A1BuA2B3A1BbA3B1oA1B1A8B1A3B1A3BkA2BmA6B1A3B1oA1B1A7B2A2B2A3B7A3BaA2BuA1B1rA5B3A3B1A4B9",
   "A1B18A5B1nA1B1A7B1A3B1A4B7A2BbA2BtA3B1oA1B1A7B1A3B1A4B7A2BbA2BfA1BcA4B1nA2B1A7B1A3B1A4B9A1BaA2",
   "BtA3B26A1B4A6B1A1B1A8BiA2B1tA1B2A7BcA8B32A1B2A9BbA7B29A2BrA1B1A1B1A1B4A2B1hAkB1A2B5AbB1A14B9A1",
   "B34AkBnA4B4A3B1A3B2A7B3A4BdAcB1A1BaA4BlvA3BtiA4BsA3BtA2BuA2B20A10B9A1B1dA3B1A1B3lA2B12A1B3mAcB",
   "4AcB6rA5B1pAaB1AtB2A1B1gAvB1hA5B1fAhB16A9BcA3BuAdB1oAeB1gAkB4oA3B1AlB4A1B6A1B2A3B66A20BmgA11B2",
   "vuA3B4dA1B30A10BhaA6B39A2BtekA4B1AaB10A2B2gA2B8gA1B3A1B4A1BnA5B4A1B2jA2B1iAiBqAiBdA1B16A8BpAdB",
   "1cA4B1fAeB14A1B23AeBcA1B8A2B1dA3B1iA1B1A3B2A2B5A2B1A1B19A5B5A2B7cA8B1A2BjpgA1Bn1AgBgAgBudA1B72",
   "A1B4lA5B1k6A3B1A2B5A4B18A3B4A1B55A2BhtA4Bc3A2B2gA3B26AbB1hA4B3qA3B1lAfB19A1B2A2BaA4B1dAbB7A1B1",
   "tA3B14AeBgA2B1cA1BcA3B1gAeB8A4B1A2B2sAcB6A1B2A1B4tAcBlA4B1nA2B1A7B2A2B2A3B9A1BaA2B2A7B3A5B60Ai",
   "BnA1B2hAkB7bA7B2A9BrA2B2iAhB3aAdB35AfB80AfB7lA6B1A2B2A4B1A1B1A2B4dA7B2A7B3A1BsAaB18A7B1A4B8A1B",
   "9AbB1eAgBclA8B1A8B2iAmB1AeB3qA6B3A1B1A2B1A7B1A1B22A5B1A2B1A5BarA4B9A2B1A1B1gA7B3A5B57tA1B6AfBd",
   "kqA5B1rA7B10oA1B1A1nB7A4B2hA1BbA2Bj5bA2B4j1A1eB2AnBguA5B3A6B8A8B2A7BuA4B4kA3B1trA1nB4A1iB8A1Be",
   "A1BmA5B1AfB1agA7B1AhB2A7B1A2B1A5B34A1B50A7BbnA1B1tA4BfsA4Bv0A7B3dA7Bo5tlA7gB"]

def isMark (c : Char) : Bool := marks.get c.toNat = 1

/-- How a letter of a cursive script joins with those beside it. -/
inductive Joining where
  | none
  | transparent
  | left
  | right
  | dual
deriving DecidableEq, Repr

/-- Values in the order of the joining types. -/
def joinings : Runs := Runs.ofLines
  ["5dA1BiiA3gB8jA7B87A1dB1A1B1A2B1A2B1A1B28AbB1A1B3A1E1A4D1E1D1E1D5E4DdE1A7E1D2ElBeA2E1B3D1A3DgEi",
   "D16E1D2E9D1E1D1E1D2E2D1A1D7B2A6B2A2B1A4B2DaA3E2A1EfA1B1D1B3E5D4E1D9E1D1E1D1E1D2E1DrB2A1DbE3DfE",
   "2D4E1D1E2D3E2D6E16AbBpA11E9B9A1BoA4B1A9B1A3B1A5BiA1D5E2D1E1DaE1D1E3D3B4A1E1A4E1A1D1E2D5AjD3A1E",
   "2A5E1D9A8BaE3D1A1D2E2D6E1DfE1AoB1A10B1nA1B1A1B4A8B4A1B3A7BaA2BtA1B1qA1B4A4B8A1BkA2BqA1B2A2B1pA",
   "1B4A2B4A2B2A3B3A1BuA2B3A1BbA2B1pA1B4A5B1A2B4A1BkA2BmA6B1A1B1qA1B2A1B1A4B8A1B7A2BbA2BuA1B1tA1Bc",
   "A1B1iA1B3A1B1nA1B1A3B5A3B1A4B7A2BbA2BtA1B1qA1B2A1B6A1B5A2BkA2BsA2B1pA2B4A4B8A1BkA2BtA1B28A1B7A",
   "3B1A1B2qA1B2A7BcA8B32A1B2A9BbA7B29A2BrA1B1A1B1A1B1nAeB1A5B1A2B5AbB1A14B9A1B36A4B1A6B1A2B2A2BpA",
   "2B4A3BgA4BdA1B2A2B6A1BfA1BlvA3BtiA3BtA2BuA2BuA2B20A2B1A7B8A1B2AbB9A1B19A1E3A3B1A1BgA2pEcA2B12E",
   "1B1E3lA3B4A2B9A1B6A3B6rA2B2A1B1qA1B1A7B1A1B1A1B2A8B6AaB2A1B1gAvB1hA4B1gA1B1A5B1A1B5A1B18A9BcA2",
   "B10A4B2A2B1A3B1oA1B1A2B3A1B1A3B1qA8B2A2B4oA3B1AdB1A7B4A1B6A1B3A2B66A20BgbA1B2A2BqA5B1hA5B5A6B3",
   "0A11B2vuA3B4dA1B30A10BhaA4B3bA2BtekA4B1AaB10A2B2gA2B8gA1B3A1B4A1BpA2B5A1BjA1iE1C2hA2BqAiBdA1B1",
   "6A8BpAbB1eA3B1gA1B2A4B2A2B17A1B23A6B2A2B2A2BcA1B8A1B1fA1B1jA1B1A3B2A2B5A2B1A1B1aA2B8A1B7eA1B2A",
   "1B4A1BjpgA1Bn1AgBgAgB6fA1B7pA3Bg1A1B72A1B4lA5B1k6A3B1A2B5A4B18A3B4A1B40A5E1D1A1D1A2D2A1C5D4E1C",
   "5E1D3E1D2A1D2B4A4E1D4gA1E1D1E3D3E1D2E1D1E2D1E1DnA4D2EahA1C11E1D1E4Bc3A2B2gA3B1gA3E1DhE1AbB3E1D",
   "rA4E2DcE4B1aA1E1A2E3D1A1E2D2E1D2E1A1E2D1E4A1D1E1C1lA1B1mAfB19A1B2A2BaA3B1hA4B2A2B7A1B1tA3B14A5",
   "B1A8B1uA1BcA2B1kA9BaA4B2A1B2vA3B2A1B1A2B6A1B2A1B4tA1B3A8BlA2B1pA2B3A1B15A7B3A5B63A8B2A3B1A1BnA",
   "1B2kA6B1A1B4A2B1A2B7eA4B6A2B1A2BrA2B2lA8B2A1B1A2B3aA1B1A1B2A6B1A1B35A3B2A4B1A5B83A9B1A2B80A2B1",
   "A1B4A1B4gA4B2A2B4A1B10AaB18A6B2A4B8A1B9A6B2A3B1eAdB1A2BcmA7B1A6B1A1B2iAmB2A7B1A2B1A2B3qA6B3A1B",
   "1A2B1A7B1A1B28A2B3A1B1A1BarA2BbA2B1kA5B5A1B1A1B57dAhB6AfBdkqA5B1rA7B10oA1B1vA4B2hA1Bj5oA2B1A4B",
   "4isA1eB2AnBh0A3B9AgB2A7BuA4B4kA3B1trA1nB4A1iB8A1BeA1BmA5B1AfB1agA7B1AhB2A7B1A2B1A5B34A1B50A7Bb",
   "nA1B1tA4BfsA4Bv0A7B19A24E8Bo5llA1BuA30B40A7gB"]

def Joining.of (c : Char) : Joining :=
  match joinings.get c.toNat with
  | 1 => .transparent
  | 2 => .left
  | 3 => .right
  | 4 => .dual
  | _ => .none

/-- The classes that the rule for names of both directions tells apart. -/
inductive Direction where
  | other
  | leftToRight
  | rightToLeft
  | arabicLetter
  | arabicNumber
  | europeanNumber
  | separator
  | commonSeparator
  | terminator
  | neutral
  | boundary
  | mark
deriving DecidableEq, Repr

/-- Values in the order of the classes. -/
def directions : Runs := Runs.ofLines
  ["9K5AeK5A2J3I5J1G1H1G2HaF1H6JqB6JqB4J6K1AqK1H1J4I4J1B2J1K2J2I2F1J1B3J1F1B5JnB1JvB1Je1B2J7BeJ2Be",
   "J5B9J1BhJ3gL4B2J2B2A4B1J1B4A2J1B1J3B1A1B1AkB1A2jB1J4cB7L56B1A16B2A1hB1J2A2J1I1A1dL1C1L1C2L1C2L",
   "1C1L8ArC4A6CbA6E2J1D2I1D1H1D2JbL1gDlLaE1I2E3D1L35D7L1E1J6L2D2L1J4L2DaFkD1A2D1LuDrL2A2pDbL1DeA1",
   "bC9L2C4J1C2A1LoC4L1C9L1C3L1C5L2AfC1ApC3L2A1C1AbD5AvD1A2E6A8L1aDoL1E10L1nB1L1B1L4B8L4B1L3B7LaB2",
   "LtB1L2B1A8B2A2B2AmB1A7B1A1B3A4B2A1L4B4L2A2B2A2B1L1B8A1B4A2B1A3B2L2AcB2I7B1I2B1L2A2L1B1A6B4A2B2",
   "AmB1A7B1A2B1A2B1A2B2A1L1A3B2L4A2L2A3L3A1L7A4B1A1B7AaB2L3B1L1BaA2L1B1A9B1A3B1AmB1A7B1A2B1A5B2A1",
   "L4B5L1A2L1B1A2B1L2A1BfA2B2L2AbB1I7A1B6L1A1L2B1A8B2A2B2AmB1A7B1A2B1A5B2A1L2B1L1B4L2A2B2A2B1L7A2",
   "L1B4A2B1A3B2L2AiBaA1L1B1A6B3A3B1A4B3A2B1A1B1A2B3A2B3A3B3AcB4A2B1L2B3A3B1A3B1L2A1B6A1BeAdB6J1I1",
   "J5A1L3B1L8B1A3B1AnB1AgB2A1L1B3L4B1A3L1A4L7A2L1A3B2A1B2A2B2L2AaB7A1B7J2B1LbB1A3B1AnB1AaB1A5B2A1",
   "L8B1A3B1A2B2L7A2B6A2B1A2B2L2AaB1A3BcA2LbB1A3B1A19B2L4B4L1A3B1A3B1L2B4AeB2L2AqB1A1L2B1AiB3AoB1A",
   "9B1A1B2A7B3A1L4A3B3L1A1L1A8B6AaB2A3BcA1gB1L2B7L4A1I7B8LdB15A2B1A1B1A5B1AoB1A1B1AaB1L2B9L1B2A5B",
   "1A1B1A7L1AaB2A4B10AoB2LrB1L1B1L1B1L4JaB1A14B4AeL1B5L1B2L5BbL1A14L1A8B1L6B1AdB15A1dB4L1B6L1B2L2",
   "B2LpB2L4B3LgB4LdB1L2B2L6B1LfB1L18B1A1B5A1B2AbpB1A4B2A7B1A1B1A4B2A19B1A4B2A11B1A4B2A7B1A1B1A4B2",
   "AfB1A1pB1A4B2A23B2A3LtB3AgBaJ6A2mB2A6B2A1JjvB1AqB2J3A2pB7AiB3L1B9AjB2L3B9AiB2LcAdB1A3B1A2LcA1k",
   "B2L1B7L8B1L2BbL7B1I1B1L2AaB6AaJ6AbJ3L1K1LaB6A2pB7A5B2L12B1L1B5A26BaAvB1A3L4B2L3B4A2B1L6B3L4A1J",
   "3A2J18B2A5BbA1cB4AqB6AbB3A12JnB2L2B1L2A1oB1L1B7L1A1L1B1L2B8L6BaL2A1LaB6AaB6AeB2AvL1hA4L1gB1L1B",
   "5L1B1L5B1LaB3ArB9LbB1A2L10B4L2B2L1B3L1oB1L1B2L3B1L1B3L2B8A1gB8L2B2L3AfB3A1sB7A1bB2AbB8A3L1BdL1",
   "B7L4B1L6B1L3B2L1B5A60B20L8mB2A6B2A16B2A6B2A8B1A1B1A1B1A1B1AvB2A1lB1A7B1J1B3J3B1A7B3J4B2A6B1A3J",
   "dB3J2A3B1A7B2JcA3K1B1CoJ7A1H5IfJ1HqJ1A5K5A6K1F1B2A6F2G3J1BaF2G3J1AdB3A11IfA11LfA2J1B4J1B2JaB1J",
   "1B3J5B6J1B1J1B1J1B1J4B1IbB2J4B5J5B4J2BgJ19B3J4A42J1G1I92J25BqJ1B4hJpAbJlA18JkF2eBe2J1BajJ80Bjk",
   "J2A10J1A39J75B6J4B3L2B5A7J16B1A1B5A1B2A1oB7A2BeA1LnB9A7B1A7B1A7B1A7B1A7B1A7B1A7B1A7B1A10L2uJ12",
   "AqJ1A2pJcA6mJqAcJ5A4J3BpJ9B4L2B1J5B2J5B3J1A2mB2A2L2J3B1J2qB1J4B5A1bB1A2uB1A1gB14JcA1dB2J1A1gBg",
   "JsB3J1iBfJcB4J57B4J33B2JvB1J6e0B20JlkdB3A1nJ9A9tB3JsBkA1fB4L1JaL2JuB2L2gB2L6B8A12J36B1J22B5A2B",
   "1A1B1A5BoAgB1L3B1L4B1LpB2L1B4J1L3A8B2I6A1kB4J8A24B2L8AcB6AiLdB1L16B8LpBbL2BbAuB3A3L1gB1L2B4L2B",
   "2LgB1AbB4A7B1LpB1A19B6L2B2L2B2L9A3B1L8B1L1B2AaB2A10B1L1jB1L1B3L2B2L5B2L1B1L1BoAhB2L8B1LaA6B2A6",
   "B2A6B9A7B1A7B1A1qB2J4A3lB1L2B1L4B1L2AaB6Aat4BcAnB4A1hB4A8jeB2A3aB16A7BcA5B5A1C1LaC1GdC1A5C1A1C",
   "1A2C1A2C1AaC3jDgAbbDiJ20D2A1mD7A1J10AdD3JgLaJ6AgL10J1H1J1H1A1J1H9J1I2J2G3J1A1J2I1J4A5D1A47D2A1",
   "K1A2J3I5J1G1H1G2HaF1H6JqB6JqBbJ2pB3A6B2A6B2A6B2A3B3A2I3J2I1A7JaA5J2AcB1AqB1AjB1A2B1AfB2AeB12A3",
   "rB5A1B1J1B4A1dB3A9B2dJ2B1AdJ3A1J1fA1dB1L42AtB3A1hBfA1LrF4A14B9AuB5A16B5L5AuB1A15B4AeB1aA4uB2Aa",
   "B6A14B4A14B4A18B8A1kBbAcB1AfB1A7B1A2B1AbB1AfB1A7B1A2B23A9nB9AmBaA8BoA6B1A1aB1A9B25A6C2A1C1A1cC",
   "1A2C3A1C2AnC1A28C8A9C1gAjC1A2C5A11C3A1JqC5A1C20A1oC4AkC2A1fC3L1A2L5A4L4C1A3C1AtC2A3L4A1L9C7A9C",
   "7A20C10A15C2L4AcC9A1mC3A7JmC2ArC5AqC7A4CcA7C2gA29C1nA1jCdA1jC7A6C14D4L8AaE96AvE1A1aC1A2L1C2A2C",
   "2bA3L18C8AmDbL9DmAiC4L4C16AsCkAnC9A1B1L1mBfL7B4AkJaB1L2B2L1B9A3L1hB4L2B2L7B1LaA1B2ApB7AaB6A3L1",
   "4B5L1B8L1AiB8A13B1L3B9A2L1kB9LaB4L2B1LgB1AkBbAiB1AsB3L2B1L1B2L6B1L2B1L1uA7B1A1B1A4B1AfB1AbB6A1",
   "fB1L3B8L5AaB6A2L2B1A8B2A2B2AmB1A7B1A2B1A5B1A2L3B1L4B2A2B2A3B2A1B6A1B5A7B2A7L3A5L4bA1oB8L2B3L1B",
   "1LlB1A1B1L3BuA1jB6L1B1L4B2L1B2L4B8AaB56A1iB4L2A4B2L1B2LrB2L12A1jB8L2B1L1B2L4BbAaB6AdJjA1bB1L1B",
   "1L2B6L1B1L2B6AaB1mArB2A3L2B4L1B5L4AnB5pA1fB9L1B2L1B34A2jBcA8B2A1B2A8B1A2B1AuB1A2B2A2L1B1L4B1L3",
   "B9AaB26A8B2A1aB4L2A2L4B1L4BrA1B6L2B2L18B6L2B4L8B1L8A1B6L2B3L1eBdL1B2L9BdA29B7AaB7mA9B1A16B7L1A",
   "6L8BaAtB3A10B2AmL1A1B7L1B2L1B2L29A7B1A2B1A16B6L3A1L1A2L1A7L1B1L8AaB6A6B1A2B1A15B1A2L1A2B1L1B1L",
   "1B7AaB9mAjB2L4B7A2LfB1A14B5L3A2B1L1B1LnB2mA1BfAlB8J4IhJdAsrB36A3fB1A5BbA64B2icA33BdA120B1L6BfL",
   "3taAi7B8dpAhpB7AvB1AaB4A2hB1AaB6AuB2A5L1BaA1gB7LfBaAaB1A7B1AlB5AjBlgA2rB35A2bB4A1L1oB7A4LdB20A",
   "2B1J1B1LbA2BeA5voB8A16mB1aA9B8n7A4B1A7B1A2B1A93BfA1BtA3B2A1BeA4B8AccB284A3bB5AdB3A9B7AaB2A1B2L",
   "1B4K4isA1eL2AnL9A3kB1sA7mBaA17B2A1uB3L9B8K8L2B7LuB4L1rB2JlA22J3L1J3qAkBcAkBcA2nJ9ApB47A2lB1A27",
   "B1A2B2A1B2A2B2A4B1AcB1A1B1A7B1A21B1A4B2A8B1A7B1AsB1A4B1A5B1A1B3A7B1AakB2A1jB1J1pB1J1pB1J1pB1J1",
   "pB1J8B2A1iFg0B1nL4B1iL8B1LeB1L7BfA5L1AfL12gAvB6A6B6lA7L1AhL2A7L1A2L1A5L5A1uB11A1L3gA1dB3A7L7B2",
   "AaB4A2Ba0AuB1LhA1cB4LaB5A1IegAsB4LaBn6A7B1A4B1A2B1AfB1A65C2A9C7L19A24C7L1C4AaC4A2CohA24D2cA1tD",
   "62A4D1ArD1A2D1A1D2A1D1AaD1A4D1A1D1A1D6A1D4A1D1A1D1A1D1A3D1A2D1A1D2A1D1A1D1A1D1A1D1A1D1A2D1A1D2",
   "A4D1A7D1A4D1A4D1A1D1AaD1AhD5A3D1A5D1AhD1kA2J8eA1cJ4A34JcAfJ2AfJ1AfJ1A15JaAbF5JvB1J1qB6J1tB1J1o",
   "AtBdA1cB4A9B7A2BeA6J4qAuoJ4AhJ3AdJ3A3nJ4A2vJ6AcJ4A1JfAcJ4A1oJ8AaJ6A18J8AuJ2A2J2eAakJcAeJ2AdJ3A",
   "9J7A1eJ1A7J8AeJ4A9J7A9J7A4jJ1A1nJ15AaF106A19n0B10A41qB6A6uB2A5k2BeA79hB30vAguB1f2A4qbB5A430Bln",
   "2hA1KuA30K40A7gL1vggA1vvuB2A1vvuB"]

def Direction.of (c : Char) : Direction :=
  match directions.get c.toNat with
  | 1 => .leftToRight
  | 2 => .rightToLeft
  | 3 => .arabicLetter
  | 4 => .arabicNumber
  | 5 => .europeanNumber
  | 6 => .separator
  | 7 => .commonSeparator
  | 8 => .terminator
  | 9 => .neutral
  | 10 => .boundary
  | 11 => .mark
  | _ => .other

end Lockstep.Idna
