import Lockstep.Text.Runs

/-!
# Printable characters

Which characters a quoted text shows as themselves. The others are unassigned, control, format,
surrogate and private-use code points, separators other than the space, and the characters that
extend the grapheme before them (Unicode 15.1).
-/

namespace Lockstep.Text

/-- Value 1 on the code points that are not printable. -/
def unprintable : Runs := Runs.ofLines
  ["10B2vA12BcA1BiiA3gB8A2B6A4B7A1B1A1BkA1B70A7B56A1B16A2B1iA2B3A1eB1A1B1A2B1A2B1A9BrA4B6AhBaAbB1A",
   "1B1eAlBgA1B35A8B1A6B2A2B1A4B10A2B1A1BuAtB2pAbB1AeB1bA9B7A3BoA4B1A9B1A3B1A7BfA1BpA5B1A1BbA5BvAh",
   "B1aA1pB1nA1B1A1B4A8B4A1B3A7BaA2BtA1B2A1B8A2B2A2BmA1B7A1B1A3B4A3B1A1B2A6B2A2B2A1B1AdB2A1B3A4BoA",
   "5B1A1B6A4B2A2BmA1B7A1B2A1B2A1B2A4B3AoB4A1B1A7BaA2B3A1B1AcB1A1B9A1B3A1BmA1B7A1B2A1B5A3B4A8B1A1B",
   "2A3B1AfB2A4BcA7B1A8B2A1B8A2B2A2BmA1B7A1B2A1B5A3B1A2B1A6B2A2B2AfB2A1B3A4BiAbB1A1B6A3B3A1B4A3B2A",
   "1B1A1B2A3B2A3B3A3BcA5B1A1B2A3B3A1B3A3B1AlBlA6B3A1B8A1B3A1BnA1BgA3B1A3B4AjB3A2B1A2B2A4BaA7BaA1B",
   "bA1B3A1BnA1BaA1B5A3B2A1B2A1B2A2B2A1B2AhB2A1B2A4BaA1B3AeBbA1B3A1B19A2B1A1B2A5B3A1B3A1B2A4B3A1Ba",
   "A4BqA2B2A1BiA3BoA1B9A1B1A2B7A9B2A6B7A7BaA2B3AcB1gA1B2AbB8A8BdA15B2A1B1A1B5A1BoA1B1A1BaA1B2A9B1",
   "A2B5A1B1A9BaA2B4A10BoA2BrA1B1A1B1A1BeA1B14AiB1A5B1A2B5A1hB8A1B6A1BdA15B1dA4B1A6B1A2B2A2BpA2B4A",
   "3BgA4BdA1B2A2B6A1BfA1B18A1B1A5B1A2BbpA1B4A2B7A1B1A1B4A2B19A1B4A2B11A1B4A2B7A1B1A1B4A2BfA1B1pA1",
   "B4A2B23A5BtA3BqA6B2mA2B6A2Bk0A1BsA3B2pA7BiA3B1A9BjA2B3A9BiAeBdA1B3AfB1kA2B1A7B8A1B2AbB9A3BaA6B",
   "aA6BbA5BaA6B2pA7B5A2B12A1B1A5B26AaBvA4B4A2B3A4B2A1B6A7B1A3B1aA2B5AbB1cA4BqA6BbA3B1pA2B2A3B1oA1",
   "B1A9B1A1B2A8B6AdBaA6BaA6BeA2mB1gA7B1A1B5A1BaA3BrA9BbA3B10A4B2A2B1A3B1oA1B1A2B3A1B1A3B2A8B1gA8B",
   "2A5BfA3B1sA7B1bA2BbAbB1AdB1A7B4A1B6A1B3A2B1A5B60A20B8mA2B6A2B16A2B6A2B8A1B1A1B1A1B1A1BvA2B1lA1",
   "BfA1BeA2B6A1BjA2B3A1B9AhBoA8B1fAhB2A2BrA1BdA3B11A1vB4cA4BknApBbAlB1okA2B10A1BaoA3B2A5B1dA1B1A5",
   "B1A2B1oA7B2AfBnA9B7A1B7A1B7A1B7A1B7A1B7A1B7A1B7A11B2uA12BqA1B2pAcB6mAqBgA1B19A6BgA1B2mA4B35A5B",
   "1bA1B2uA1B2kAbB1gA1BsjdA3B1nA9BasAkB1fA4B1AaB10A2B2gA2B6A8B6bA5B2A1B1A1B5AoBgA1B3A1B4A1BpA2B5A",
   "4BaA6B1oA8B24AaBcAoBdA1B16A8BpAbB2AbBuA6B1gA1B2A4B2A2BgA1BbA4B7A1BpA1B19A6B2A2B2AbB3A1B8A1B1A2",
   "BaA2B10A1B1jA1B1A3B2A2B5A2B1A1B1AoBhA2B8AbB6A2B6A2B6A9B7A1B7A1B1sA4B3lA1B2A1B4A3BaA6Bat4AcBnA4",
   "B1hA884BbeA2B3aA16B7AcB5A5B1A1BoA1B5A1B1A1B2A1B2A1B3tAgBdtA2B1mA7B1A10BgAgBaAmB13A1BjA1B4A4B5A",
   "1B47A4B4tA2BvA3B6A2B6A2B6A2B3A3B7A1B7AdB2A2BcA1BqA1BjA1B2A1BfA2BeA12B3rA5B3A4B1dA3B2oA1BdA3B1A",
   "1fB1dA43BtA3B1hAgBrA4B14A9BuA5B16AaBuA1B15A4BeA1aB4uA2BaA6B14A4B14A4B18A8B1kAbBcA1BfA1B7A1B2A1",
   "BbA1BfA1B7A1B2A23B9nA9BmAaB8AoB6A1B1aA1B9A25B6A2B1A1B1cA1B2A3B1A2BnA1B28A8B9A1gBjA1B2A5B11A3Br",
   "A5B1A20B1oA4BkA2B1fAfB4A1B3A1BtAaB9A7B9A7B20A10B15A6BcA9B1mA3BtA2BrA5BqA7B4AcB7A2gB29A1nB1jAdB",
   "1jA7B1aAcBaA96BvA1B1aA3B1A2B2A2eB18A8BmAbB9AmBiA4B4A16BsAkBnA9B1A1B1mAfB7A4BuA1B2A2B1AcB1hA4B2",
   "A2B2A1B4AeBpA7BaA9B14A5B1A9BiA8B13A1B3AbB1kA9BaA4B2A1BgA1BkAbBiA1BsA3B2A1B1A2B6A1B2A1vB7A1B1A1",
   "B4A1BfA1BbA6B1fA1B3AdBaA8B2A1B8A2B2A2BmA1B7A1B2A1B5A3B1A1B1A1B4A2B2A2B3A2B1AcB7A4sB1oA8B2A3B1A",
   "1BlA1B1A1B3AuB1gA1B2A6B1A1B2A1B1A2B1A2B4A8BaA56B1fA1B2A6B4A2B1A2BrA14B1jA8B2A1B1A2B4AbBaA6BdAj",
   "B1bA1B1A1B2A6B1A1B2A6BaA1mBrA5B2A4B1A9BnA5pB1fA9B1A2B1A34B2jAcB8A2B1A2B8A1B2A1BoA1B5A1B2A4B1A1",
   "B4A1B3A9BaA26B8A2B1aA8B4A1B4ArB1AaB18A6B2A4B8A9B1A6B2A3B1eAdB1A2B9AdB29A7BaA7mB9A1B16AeB1A1B6A",
   "aBtA3B10ApB1A7B1A2B1A2bB7A1B2A1B16AlB1A9BaA6B6A1B2A1B15A4B2A1B1A1B1A7BaA9mBjA2B4A9BfA1B14A8B2A",
   "1B1A1BnA2mB1AfB1iAdBsrA36B3fA1B5AbB64A2icB33AdB11gAhB6A3tpBi7A8dpBhpA7BvA1BaA4B2hA1BaA6BuA7B1A",
   "aB1gA7BfAaBaA1B7A1BlA5BjAlgB2rA35B2bA5B1oAbBdA20B4AcB2AeB5voA8B16mA1aB9A8n7B4A1B7A1B2A1B93AfB1",
   "AtB3A2B1AeB4A8BccA284B3bA5BdA3B9A7BaA2B1A2B1A4lgB3kA1sB7mAaB17A2B1sA1B1A3B4AlB2A7BuA4B1tAlB22A",
   "3B1A3qBkAcBkAcB2nA9BpA47B2lA1B27A1B2A2B1A2B2A2B4A1BcA1B1A1B7A1B21A1B4A2B8A1B7A1BsA1B4A1B5A1B1A",
   "3B7A1BakA2B94A2BhiA1nB4A1iB8A1BeA1B7A13kBvA6B6A85B1uA4iB1dAaB7A2BaA4B2Aa0BuAiB1cA4BaA5B1AegBsA",
   "4BaAn6B7A1B4A1B2A1BfA1B65A2B9A1gB24A7B1A4BaA4B2AohB24A2cB1tA62B4A1BrA1B2A1B1A2B1A1BaA1B4A1B1A1",
   "B1A6B1A4B1A1B1A1B1A1B3A1B2A1B1A2B1A1B1A1B1A1B1A1B1A1B2A1B1A2B4A1B7A1B4A1B4A1B1A1BaA1BhA5B3A1B5",
   "A1BhA1kB2A8eB1cA4B34AcBfA2BfA1BfA1B15AaB5eA1oBtAdB1cA4B9A7B2AeB6A4qBuoA4BhA3BdA3B3nA4B2vA6BcA4",
   "B1AfBcA4B1oA8BaA6B18A8BuA2B2A2eBakAcBeA2BdA3B9A7B1eA1B7A8BeA4B9A7B9A7B4jA1B1nA15BaA106B19n0A10",
   "B41qA6B6uA2B5k2AeB79hAfBjeA2d2BguA1f2B4qbA5B430Arn2gB"]

/-- The character stands for itself in quoted text. -/
def isPrintable (c : Char) : Bool :=
  if c.toNat < 0x7F then 0x20 ≤ c.toNat else unprintable.get c.toNat = 0

end Lockstep.Text
