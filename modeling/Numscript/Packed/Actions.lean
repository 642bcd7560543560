/-!
# The packed actions

What the states do with their tokens lies in one table. An entry is a slot that says how many actions it has, and
its actions are the slots behind it. The slots lie in pages of sixty-four.
-/
namespace Numscript.Packed

/-- One place in the table of actions. -/
inductive Slot where
  /-- The start of an entry, and whether a token read in another state may be used again. -/
  | entry (count : Nat) (reusable : Bool)
  /-- Push the token and go to a state. -/
  | shift (next : Nat)
  /-- Push the token and stay. -/
  | shiftExtra
  /-- Reduce a phrase by its symbol, the number of its children, and its production. -/
  | reduce (symbol children precedence production : Nat)
  /-- The program is complete. -/
  | accept
  /-- Look for a place where the text goes on. -/
  | recover
  deriving DecidableEq, Repr

/-- The slots in pages. -/
def actionPages : List (List Slot) :=
  [[.entry 0 false, .entry 1 false, .recover, .entry 1 true, .shiftExtra, .entry 1 true,
    .reduce 40 0 0 0, .entry 1 false, .shift 592, .entry 1 false, .shift 40, .entry 1 false,
    .shift 41, .entry 1 false, .shift 602, .entry 1 false, .shift 593, .entry 1 true, .shift 3,
    .entry 1 true, .shift 648, .entry 1 true, .shift 65, .entry 1 true, .shift 104, .entry 1 true,
    .shift 533, .entry 1 false, .shift 606, .entry 1 false, .shift 645, .entry 1 false, .shift 115,
    .entry 1 false, .shift 559, .entry 1 true, .shift 144, .entry 1 false, .shift 597,
    .entry 1 false, .shift 147, .entry 1 true, .shift 145, .entry 1 false, .shift 148,
    .entry 1 true, .shift 146, .entry 1 true, .shift 354, .entry 1 true, .shift 384, .entry 1 true,
    .shift 657, .entry 1 true, .shift 66, .entry 1 true, .shift 105, .entry 1 true, .shift 534,
    .entry 1 false, .shift 607, .entry 1 true, .shift 175, .entry 1 false],
   [.shift 598, .entry 1 false, .shift 178, .entry 1 true, .shift 176, .entry 1 false, .shift 179,
    .entry 1 true, .shift 177, .entry 1 true, .shift 357, .entry 1 true, .shift 388, .entry 1 true,
    .shift 671, .entry 1 true, .shift 360, .entry 1 true, .shift 391, .entry 1 true, .shift 2,
    .entry 1 true, .shift 61, .entry 1 true, .shift 101, .entry 1 true, .shift 529, .entry 1 false,
    .shift 603, .entry 1 false, .shift 644, .entry 1 false, .shift 114, .entry 1 true, .shift 273,
    .entry 1 false, .shift 594, .entry 1 false, .shift 276, .entry 1 true, .shift 274,
    .entry 1 false, .shift 277, .entry 1 true, .shift 275, .entry 1 true, .shift 4, .entry 1 true,
    .shift 67, .entry 1 true, .shift 106, .entry 1 true, .shift 535, .entry 1 false, .shift 608,
    .entry 1 false, .shift 646, .entry 1 false, .shift 116, .entry 1 true, .shift 225,
    .entry 1 false, .shift 599, .entry 1 false],
   [.shift 231, .entry 1 true, .shift 227, .entry 1 false, .shift 233, .entry 1 true, .shift 229,
    .entry 1 false, .shift 120, .entry 1 false, .shift 516, .entry 1 false, .shift 517,
    .entry 1 true, .shift 19, .entry 1 false, .shift 659, .entry 1 true, .shift 68, .entry 1 true,
    .shift 107, .entry 1 true, .shift 536, .entry 1 false, .shift 609, .entry 1 true, .shift 298,
    .entry 1 false, .shift 600, .entry 1 false, .shift 301, .entry 1 true, .shift 299,
    .entry 1 false, .shift 302, .entry 1 true, .shift 300, .entry 1 true, .shift 20, .entry 1 false,
    .shift 660, .entry 1 true, .shift 656, .entry 1 true, .shift 356, .entry 1 true, .shift 386,
    .entry 1 true, .shift 372, .entry 1 true, .shift 582, .entry 1 false, .shiftExtra,
    .entry 1 true, .shift 635, .entry 1 true, .shift 72, .entry 1 false, .shift 82, .entry 1 false,
    .shift 92, .entry 1 true, .shift 60, .entry 1 true],
   [.shift 363, .entry 1 true, .shift 401, .entry 1 true, .shift 338, .entry 1 true, .shift 474,
    .entry 1 true, .shift 152, .entry 1 true, .shift 183, .entry 1 true, .shift 240, .entry 1 true,
    .shift 306, .entry 1 true, .shift 241, .entry 1 true, .shift 364, .entry 1 true, .shift 402,
    .entry 1 true, .shift 339, .entry 1 true, .shift 475, .entry 1 true, .shift 153, .entry 1 true,
    .shift 184, .entry 1 true, .shift 242, .entry 1 true, .shift 307, .entry 1 true, .shift 243,
    .entry 1 true, .shift 62, .entry 1 true, .shift 100, .entry 1 true, .shift 530, .entry 1 false,
    .shift 604, .entry 1 true, .shift 332, .entry 1 false, .shift 595, .entry 1 false, .shift 335,
    .entry 1 true, .shift 333, .entry 1 false, .shift 336, .entry 1 true, .shift 334, .entry 1 true,
    .shift 63, .entry 1 true, .shift 102, .entry 1 true, .shift 531, .entry 1 true, .shift 426,
    .entry 1 false],
   [.shift 429, .entry 1 true, .shift 427, .entry 1 false, .shift 430, .entry 1 true, .shift 428,
    .entry 1 true, .shift 64, .entry 1 true, .shift 103, .entry 1 true, .shift 532, .entry 1 false,
    .shift 605, .entry 1 true, .shift 467, .entry 1 false, .shift 596, .entry 1 false, .shift 470,
    .entry 1 true, .shift 468, .entry 1 false, .shift 471, .entry 1 true, .shift 469, .entry 1 true,
    .shift 69, .entry 1 true, .shift 108, .entry 1 true, .shift 537, .entry 1 false, .shift 610,
    .entry 1 true, .shift 226, .entry 1 false, .shift 601, .entry 1 false, .shift 232,
    .entry 1 true, .shift 228, .entry 1 false, .shift 234, .entry 1 true, .shift 230, .entry 1 true,
    .reduce 54 2 0 0, .entry 1 false, .reduce 54 2 0 0, .entry 1 true, .shift 543, .entry 1 true,
    .shift 544, .entry 1 true, .reduce 55 1 0 0, .entry 1 false, .reduce 55 1 0 0, .entry 1 true,
    .reduce 55 1 0 4, .entry 1 false, .reduce 55 1 0 4, .entry 1 true],
   [.reduce 54 3 0 0, .entry 1 false, .reduce 54 3 0 0, .entry 1 true, .shift 552, .entry 1 true,
    .reduce 88 2 0 0, .entry 1 false, .reduce 88 2 0 0, .entry 1 true, .reduce 88 3 0 0,
    .entry 1 false, .reduce 88 3 0 0, .entry 1 true, .reduce 67 1 0 0, .entry 1 false,
    .reduce 83 1 0 0, .entry 1 true, .shift 75, .entry 1 false, .shift 85, .entry 1 false,
    .shift 95, .entry 1 false, .reduce 67 1 0 0, .entry 1 false, .shift 572, .entry 1 true,
    .shift 118, .entry 1 true, .reduce 50 1 0 0, .entry 1 false, .reduce 50 1 0 0, .entry 1 true,
    .reduce 51 1 0 0, .entry 1 false, .reduce 51 1 0 0, .entry 1 true, .reduce 52 1 0 0,
    .entry 1 false, .reduce 52 1 0 0, .entry 1 true, .reduce 53 1 0 0, .entry 1 false,
    .reduce 53 1 0 0, .entry 1 true, .reduce 56 1 0 0, .entry 1 false, .reduce 56 1 0 0,
    .entry 1 true, .reduce 57 1 0 0, .entry 1 false, .reduce 57 1 0 0, .entry 1 true,
    .reduce 61 1 0 0, .entry 1 false, .reduce 61 1 0 0, .entry 1 true, .reduce 62 3 0 7,
    .entry 1 false, .reduce 62 3 0 7, .entry 1 true, .reduce 59 3 0 6, .entry 1 false],
   [.reduce 59 3 0 6, .entry 1 true, .shift 553, .entry 1 true, .reduce 60 3 0 0, .entry 1 false,
    .reduce 60 3 0 0, .entry 1 true, .reduce 62 4 0 7, .entry 1 false, .reduce 62 4 0 7,
    .entry 1 true, .reduce 58 4 0 5, .entry 1 false, .reduce 58 4 0 5, .entry 1 true, .shift 76,
    .entry 1 false, .shift 86, .entry 1 false, .shift 96, .entry 1 true, .shift 545, .entry 1 true,
    .shift 547, .entry 1 true, .shift 539, .entry 1 true, .shift 554, .entry 1 true, .shift 556,
    .entry 1 true, .shift 77, .entry 1 false, .shift 87, .entry 1 false, .shift 97, .entry 1 false,
    .shift 573, .entry 1 true, .shift 119, .entry 1 true, .reduce 85 2 0 0, .entry 1 false,
    .reduce 85 2 0 0, .entry 1 true, .shift 546, .entry 1 false, .shift 99, .entry 1 true,
    .shift 548, .entry 1 true, .reduce 66 6 0 10, .entry 1 true, .shift 79, .entry 1 false,
    .shift 89, .entry 1 false, .reduce 66 6 0 10, .entry 1 true, .reduce 66 7 0 9, .entry 1 false,
    .reduce 66 7 0 9, .entry 1 true],
   [.shift 540, .entry 1 true, .shift 555, .entry 1 false, .shift 98, .entry 1 true, .shift 549,
    .entry 1 true, .reduce 67 2 0 0, .entry 1 false, .reduce 67 2 0 0, .entry 1 false, .shift 575,
    .entry 1 true, .reduce 74 1 0 0, .entry 1 true, .shift 78, .entry 1 false, .shift 88,
    .entry 1 false, .reduce 74 1 0 0, .entry 1 true, .reduce 64 1 0 0, .entry 1 false,
    .reduce 64 1 0 0, .entry 1 true, .reduce 69 2 0 0, .entry 1 false, .reduce 69 2 0 0,
    .entry 1 true, .reduce 91 1 0 0, .entry 1 false, .reduce 91 1 0 0, .entry 1 true,
    .reduce 68 3 0 0, .entry 1 false, .reduce 68 3 0 0, .entry 1 true, .reduce 69 3 0 0,
    .entry 1 false, .reduce 69 3 0 0, .entry 1 true, .reduce 91 2 0 0, .entry 1 false,
    .reduce 91 2 0 0, .entry 1 true, .reduce 65 4 0 8, .entry 1 false, .reduce 65 4 0 8,
    .entry 1 true, .reduce 70 4 0 0, .entry 1 false, .reduce 70 4 0 0, .entry 1 true,
    .reduce 71 4 0 11, .entry 1 false, .reduce 71 4 0 11, .entry 1 true, .reduce 65 5 0 8,
    .entry 1 false, .reduce 65 5 0 8, .entry 1 false, .shift 576, .entry 1 true],
   [.reduce 73 1 0 0, .entry 1 false, .reduce 73 1 0 0, .entry 1 true, .reduce 75 3 0 0,
    .entry 1 false, .reduce 75 3 0 0, .entry 1 true, .reduce 76 4 0 0, .entry 1 false,
    .reduce 76 4 0 0, .entry 1 true, .reduce 76 5 0 0, .entry 1 false, .reduce 76 5 0 0,
    .entry 1 true, .reduce 77 5 0 0, .entry 1 false, .reduce 77 5 0 0, .entry 1 true,
    .reduce 77 6 0 0, .entry 1 false, .reduce 77 6 0 0, .entry 1 true, .reduce 90 1 0 0,
    .entry 1 false, .reduce 90 1 0 0, .entry 1 true, .reduce 90 2 0 0, .entry 1 false,
    .reduce 90 2 0 0, .entry 1 true, .reduce 72 3 0 0, .entry 1 false, .reduce 72 3 0 0,
    .entry 1 true, .reduce 92 1 0 0, .entry 1 false, .reduce 92 1 0 0, .entry 1 true,
    .reduce 92 2 0 0, .entry 1 false, .reduce 92 2 0 0, .entry 1 true, .reduce 80 1 0 0,
    .entry 1 false, .reduce 80 1 0 0, .entry 1 true, .reduce 78 2 0 0, .entry 1 false,
    .reduce 78 2 0 0, .entry 1 true, .reduce 81 2 0 0, .entry 1 false, .reduce 81 2 0 0,
    .entry 1 true, .reduce 40 1 0 0, .entry 1 false, .shift 91, .entry 1 true, .reduce 40 2 0 0,
    .entry 1 true, .shift 541, .entry 1 true],
   [.shift 550, .entry 1 false, .shift 90, .entry 1 false, .shift 93, .entry 1 true,
    .reduce 46 4 0 0, .entry 1 false, .reduce 46 4 0 0, .entry 1 true, .shift 73, .entry 1 true,
    .shift 83, .entry 1 true, .shift 542, .entry 1 true, .shift 71, .entry 1 true, .shift 81,
    .entry 1 true, .shift 571, .entry 1 true, .shift 117, .entry 1 true, .shift 24, .entry 1 true,
    .shift 585, .entry 1 true, .reduce 63 1 0 0, .entry 1 true, .shift 70, .entry 1 true, .shift 80,
    .entry 1 true, .shift 111, .entry 1 true, .shift 551, .entry 1 true, .reduce 83 1 0 0,
    .entry 1 true, .reduce 44 1 0 0, .entry 1 false, .reduce 44 1 0 0, .entry 1 true,
    .reduce 47 1 0 0, .entry 1 false, .reduce 47 1 0 0, .entry 1 true, .reduce 86 1 0 0,
    .entry 1 false, .reduce 86 1 0 0, .entry 1 true, .reduce 86 2 0 0, .entry 1 false,
    .reduce 86 2 0 0, .entry 1 true, .reduce 41 3 0 0, .entry 1 false, .reduce 41 3 0 0,
    .entry 1 true, .reduce 41 4 0 0, .entry 1 false, .reduce 41 4 0 0, .entry 1 false],
   [.shift 94, .entry 1 true, .reduce 89 2 0 0, .entry 1 true, .reduce 43 2 0 0, .entry 1 true,
    .shift 74, .entry 1 true, .shift 84, .entry 1 true, .reduce 89 3 0 0, .entry 1 true,
    .reduce 45 10 0 0, .entry 1 false, .reduce 45 10 0 0, .entry 1 true, .shift 473, .entry 1 true,
    .shift 614, .entry 1 true, .reduce 48 1 0 2, .entry 1 true, .shift 283, .entry 1 true,
    .shift 343, .entry 1 true, .shift 438, .entry 1 true, .shift 480, .entry 1 true, .shift 158,
    .entry 1 true, .shift 188, .entry 1 true, .shift 251, .entry 1 true, .shift 312, .entry 1 true,
    .shift 252, .entry 1 true, .reduce 42 2 0 1, .entry 1 true, .shift 112, .entry 1 true,
    .shift 284, .entry 1 true, .shift 346, .entry 1 true, .shift 440, .entry 1 true, .shift 483,
    .entry 1 true, .shift 161, .entry 1 true, .shift 191, .entry 1 true, .shift 257, .entry 1 true,
    .shift 315, .entry 1 true, .shift 258, .entry 1 true, .shift 16, .entry 1 true],
   [.shift 17, .entry 1 true, .shift 18, .entry 2 true, .reduce 84 1 0 0, .shift 22, .entry 2 true,
    .reduce 84 1 0 0, .shift 397, .entry 1 true, .shift 23, .entry 1 true, .shift 397,
    .entry 1 true, .shift 120, .entry 1 true, .shift 523, .entry 1 true, .shift 524, .entry 1 true,
    .shift 22, .entry 1 true, .shift 239, .entry 1 true, .shift 238, .entry 1 true, .shift 305,
    .entry 1 true, .shift 304, .entry 1 true, .shift 412, .entry 1 true, .shift 411, .entry 1 true,
    .shift 445, .entry 1 true, .shift 444, .entry 1 true, .shift 129, .entry 1 true, .shift 128,
    .entry 1 true, .shift 151, .entry 1 true, .shift 150, .entry 1 true, .shift 195, .entry 1 true,
    .shift 193, .entry 1 true, .shift 281, .entry 1 true, .shift 280, .entry 1 true, .shift 196,
    .entry 1 true, .shift 194, .entry 1 true, .shift 476, .entry 1 true, .reduce 82 1 0 0,
    .entry 1 true, .reduce 84 1 0 0, .entry 1 true],
   [.shift 521, .entry 1 true, .shift 522, .entry 1 true, .shift 526, .entry 1 true, .shift 527,
    .entry 1 true, .reduce 48 1 0 0, .entry 1 true, .reduce 87 1 0 0, .entry 1 true,
    .reduce 87 2 0 0, .entry 1 true, .reduce 63 2 0 0, .entry 1 true, .shift 113, .entry 1 true,
    .reduce 42 3 0 1, .entry 1 true, .reduce 49 4 0 3, .entry 1 true, .shift 574, .entry 1 true,
    .shift 653, .entry 1 true, .shift 650, .entry 1 true, .shift 654, .entry 1 true, .shift 651,
    .entry 1 true, .shift 655, .entry 1 true, .shift 652, .entry 1 true, .shift 664, .entry 1 true,
    .shift 661, .entry 1 true, .shift 665, .entry 1 true, .shift 662, .entry 1 true, .shift 666,
    .entry 1 true, .shift 663, .entry 1 true, .reduce 93 1 0 0, .entry 1 true, .reduce 93 2 0 0,
    .entry 1 true, .reduce 79 3 0 0, .entry 1 true, .shift 491, .entry 1 true, .shift 42,
    .entry 1 true, .shift 43, .entry 1 true, .shift 44, .entry 1 true, .shift 45, .entry 1 true],
   [.shift 46, .entry 1 true, .shift 47, .entry 1 true, .shift 48, .entry 1 true, .shift 49,
    .entry 1 true, .shift 50, .entry 1 true, .shift 51, .entry 1 true, .shift 52, .entry 1 true,
    .shift 53, .entry 1 true, .shift 54, .entry 1 true, .shift 55, .entry 1 true, .shift 56,
    .entry 1 true, .shift 57, .entry 1 true, .shift 58, .entry 1 true, .shift 59, .entry 1 true,
    .accept, .entry 1 true, .shift 615, .entry 1 true, .shift 110, .entry 1 true, .shift 503,
    .entry 1 true, .shift 634, .entry 1 true, .shift 365, .entry 1 true, .shift 406, .entry 1 true,
    .shift 344, .entry 1 true, .shift 481, .entry 1 true, .shift 159, .entry 1 true, .shift 189,
    .entry 1 true, .shift 253, .entry 1 true, .shift 313, .entry 1 true, .shift 254, .entry 1 true,
    .shift 366, .entry 1 true, .shift 407, .entry 1 true, .shift 345, .entry 1 true, .shift 482,
    .entry 1 true],
   [.shift 160, .entry 1 true, .shift 190, .entry 1 true, .shift 255, .entry 1 true, .shift 314,
    .entry 1 true, .shift 256, .entry 1 true, .shift 14, .entry 1 true, .shift 569, .entry 1 true,
    .shift 647, .entry 1 true, .shift 8, .entry 1 true, .shift 9, .entry 1 true, .shift 10,
    .entry 1 true, .shift 21, .entry 1 true, .shift 15, .entry 1 true, .shift 667, .entry 1 true,
    .shift 359, .entry 1 true, .shift 389, .entry 1 true, .shift 668, .entry 1 true, .shift 669,
    .entry 1 true, .shift 670, .entry 1 true, .shift 490, .entry 1 true, .shift 519, .entry 1 true,
    .shift 520, .entry 1 true, .shift 673, .entry 1 true, .shift 362, .entry 1 true, .shift 394,
    .entry 1 true, .shift 674, .entry 1 true, .shift 675, .entry 1 true, .shift 676, .entry 1 true,
    .shift 121, .entry 1 true, .shift 122, .entry 1 true, .shift 123, .entry 1 true, .shift 124,
    .entry 1 true],
   [.shift 125, .entry 1 true, .shift 126, .entry 1 true, .shift 373, .entry 1 true, .shift 586,
    .entry 1 true, .shift 374, .entry 1 true, .shift 589, .entry 1 true, .shift 375, .entry 1 true,
    .shift 590, .entry 1 true, .shift 376, .entry 1 true, .shift 591]]

end Numscript.Packed
