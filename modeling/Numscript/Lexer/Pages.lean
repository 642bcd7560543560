import Numscript.Lexer.State

/-!
# The states of the lexer

The states by number, in pages of sixty-four.
-/
namespace Numscript.Lexer

/-- The states from 0 to 63. -/
def page0 : List State :=
  [.lastMode
     [(.only '"', 2), (.only '$', 7), (.only '(', 11), (.only ')', 12), (.only '*', 13),
      (.only '+', 14), (.only ',', 15), (.only '-', 16), (.only '/', 21), (.only ':', 35),
      (.only '=', 36), (.only '@', 37), (.only '[', 42), (.only '\\', 43), (.only ']', 44),
      (.only '_', 17), (.only 'a', 45), (.only 'd', 56), (.only 'f', 67), (.only 'k', 71),
      (.only 'm', 75), (.only 'o', 78), (.only 'r', 91), (.only 's', 100), (.only 't', 112),
      (.only 'u', 114), (.only 'v', 124), (.only '{', 128), (.only '}', 129), (.digit, 31),
      (.capital, 38), (.small, 55)],
   .token .endOfText [],
   .inside [(.only '"', 4), (.only '\\', 5), (.inString, 3)],
   .inside [(.only '"', 4), (.only '\\', 5), (.inString, 3)],
   .token .string [],
   .inside [(.only '"', 6), (.only '\\', 5), (.inString, 3)],
   .token .string [(.only '"', 4), (.only '\\', 5), (.inString, 3)],
   .inside [(.wordChar, 8)],
   -- 8
   .token .variableName [(.digit, 9), (.wordChar, 10)],
   .token .variableName [(.variableChar, 9)],
   .token .variableName [(.digit, 9), (.wordChar, 10)],
   .token .lparen [],
   .token .rparen [],
   .token .star [],
   .token .plus [],
   .token .comma [],
   -- 16
   .token .minus [(.digit, 18), (.accountChar, 17)],
   .token .accountText [(.accountChar, 17)],
   .token .number [(.only '_', 19), (.digit, 18), (.accountChar, 17)],
   .token .accountText [(.digit, 20), (.accountChar, 17)],
   .token .number [(.only '_', 19), (.digit, 20), (.accountChar, 17)],
   .token .slash [(.only '*', 22), (.only '/', 29)],
   .inside [(.only '*', 24), (.anything, 23)],
   .inside [(.only '*', 24), (.anything, 23)],
   -- 24
   .inside [(.only '*', 24), (.only '/', 28), (.anything, 25)],
   .inside [(.only '*', 27), (.anything, 26)],
   .inside [(.only '*', 27), (.anything, 26)],
   .inside [(.only '*', 27), (.only '/', 28), (.anything, 25)],
   .token .multilineComment [],
   .token .lineComment [(.inLine, 30)],
   .token .lineComment [(.inLine, 30)],
   .token .number
     [(.only '%', 32), (.only '.', 33), (.only '_', 19), (.digit, 31), (.accountChar, 17)],
   -- 32
   .token .percentagePortion [],
   .inside [(.digit, 34)],
   .inside [(.only '%', 32), (.digit, 34)],
   .token .colon [],
   .token .equals [],
   .token .atSign [],
   .token .asset [(.only '/', 39), (.assetChar, 41), (.accountChar, 17)],
   .inside [(.digit, 40)],
   -- 40
   .token .asset [(.digit, 40)],
   .token .asset [(.only '/', 39), (.assetChar, 41), (.accountChar, 17)],
   .token .lbracket [],
   .token .backslash [],
   .token .rbracket [],
   .token .identifier [(.only '_', 46), (.only 'l', 48), (.small, 47), (.accountChar, 17)],
   .token .identifier [(.wordChar, 46), (.accountChar, 17)],
   .token .identifier [(.only '_', 46), (.small, 47), (.accountChar, 17)],
   -- 48
   .token .identifier [(.only '_', 46), (.only 'l', 49), (.small, 47), (.accountChar, 17)],
   .token .identifier [(.only '_', 46), (.only 'o', 50), (.small, 47), (.accountChar, 17)],
   .token .identifier [(.only '_', 46), (.only 'w', 51), (.small, 47), (.accountChar, 17)],
   .token .identifier [(.only '_', 46), (.only 'i', 52), (.small, 47), (.accountChar, 17)],
   .token .identifier [(.only '_', 46), (.only 'n', 53), (.small, 47), (.accountChar, 17)],
   .token .identifier [(.only '_', 46), (.only 'g', 54), (.small, 47), (.accountChar, 17)],
   .token .kwAllowing [(.only '_', 46), (.small, 47), (.accountChar, 17)],
   .token .identifier [(.only '_', 46), (.small, 47), (.accountChar, 17)],
   -- 56
   .token .identifier [(.only '_', 46), (.only 'e', 57), (.small, 47), (.accountChar, 17)],
   .token .identifier [(.only '_', 46), (.only 's', 58), (.small, 47), (.accountChar, 17)],
   .token .identifier [(.only '_', 46), (.only 't', 59), (.small, 47), (.accountChar, 17)],
   .token .identifier [(.only '_', 46), (.only 'i', 60), (.small, 47), (.accountChar, 17)],
   .token .identifier [(.only '_', 46), (.only 'n', 61), (.small, 47), (.accountChar, 17)],
   .token .identifier [(.only '_', 46), (.only 'a', 62), (.small, 47), (.accountChar, 17)],
   .token .identifier [(.only '_', 46), (.only 't', 63), (.small, 47), (.accountChar, 17)],
   .token .identifier [(.only '_', 46), (.only 'i', 64), (.small, 47), (.accountChar, 17)]]

/-- The states from 64 to 127. -/
def page1 : List State :=
  [.token .identifier [(.only '_', 46), (.only 'o', 65), (.small, 47), (.accountChar, 17)],
   .token .identifier [(.only '_', 46), (.only 'n', 66), (.small, 47), (.accountChar, 17)],
   .token .kwDestination [(.only '_', 46), (.small, 47), (.accountChar, 17)],
   .token .identifier [(.only '_', 46), (.only 'r', 68), (.small, 47), (.accountChar, 17)],
   .token .identifier [(.only '_', 46), (.only 'o', 69), (.small, 47), (.accountChar, 17)],
   .token .identifier [(.only '_', 46), (.only 'm', 70), (.small, 47), (.accountChar, 17)],
   .token .kwFrom [(.only '_', 46), (.small, 47), (.accountChar, 17)],
   .token .identifier [(.only '_', 46), (.only 'e', 72), (.small, 47), (.accountChar, 17)],
   -- 72
   .token .identifier [(.only '_', 46), (.only 'p', 73), (.small, 47), (.accountChar, 17)],
   .token .identifier [(.only '_', 46), (.only 't', 74), (.small, 47), (.accountChar, 17)],
   .token .destinationKept [(.only '_', 46), (.small, 47), (.accountChar, 17)],
   .token .identifier [(.only '_', 46), (.only 'a', 76), (.small, 47), (.accountChar, 17)],
   .token .identifier [(.only '_', 46), (.only 'x', 77), (.small, 47), (.accountChar, 17)],
   .token .kwMax [(.only '_', 46), (.small, 47), (.accountChar, 17)],
   .token .identifier
     [(.only '_', 46), (.only 'n', 79), (.only 'v', 83), (.small, 47), (.accountChar, 17)],
   .token .identifier [(.only '_', 46), (.only 'e', 80), (.small, 47), (.accountChar, 17)],
   -- 80
   .token .identifier [(.only '_', 46), (.only 'o', 81), (.small, 47), (.accountChar, 17)],
   .token .identifier [(.only '_', 46), (.only 'f', 82), (.small, 47), (.accountChar, 17)],
   .token .kwOneof [(.only '_', 46), (.small, 47), (.accountChar, 17)],
   .token .identifier [(.only '_', 46), (.only 'e', 84), (.small, 47), (.accountChar, 17)],
   .token .identifier [(.only '_', 46), (.only 'r', 85), (.small, 47), (.accountChar, 17)],
   .token .identifier [(.only '_', 46), (.only 'd', 86), (.small, 47), (.accountChar, 17)],
   .token .identifier [(.only '_', 46), (.only 'r', 87), (.small, 47), (.accountChar, 17)],
   .token .identifier [(.only '_', 46), (.only 'a', 88), (.small, 47), (.accountChar, 17)],
   -- 88
   .token .identifier [(.only '_', 46), (.only 'f', 89), (.small, 47), (.accountChar, 17)],
   .token .identifier [(.only '_', 46), (.only 't', 90), (.small, 47), (.accountChar, 17)],
   .token .kwOverdraft [(.only '_', 46), (.small, 47), (.accountChar, 17)],
   .token .identifier [(.only '_', 46), (.only 'e', 92), (.small, 47), (.accountChar, 17)],
   .token .identifier [(.only '_', 46), (.only 'm', 93), (.small, 47), (.accountChar, 17)],
   .token .identifier [(.only '_', 46), (.only 'a', 94), (.small, 47), (.accountChar, 17)],
   .token .identifier [(.only '_', 46), (.only 'i', 95), (.small, 47), (.accountChar, 17)],
   .token .identifier [(.only '_', 46), (.only 'n', 96), (.small, 47), (.accountChar, 17)],
   -- 96
   .token .identifier [(.only '_', 46), (.only 'i', 97), (.small, 47), (.accountChar, 17)],
   .token .identifier [(.only '_', 46), (.only 'n', 98), (.small, 47), (.accountChar, 17)],
   .token .identifier [(.only '_', 46), (.only 'g', 99), (.small, 47), (.accountChar, 17)],
   .token .kwRemaining [(.only '_', 46), (.small, 47), (.accountChar, 17)],
   .token .identifier
     [(.only '_', 46), (.only 'a', 101), (.only 'e', 104), (.only 'o', 107), (.small, 47),
      (.accountChar, 17)],
   .token .identifier [(.only '_', 46), (.only 'v', 102), (.small, 47), (.accountChar, 17)],
   .token .identifier [(.only '_', 46), (.only 'e', 103), (.small, 47), (.accountChar, 17)],
   .token .kwSave [(.only '_', 46), (.small, 47), (.accountChar, 17)],
   -- 104
   .token .identifier [(.only '_', 46), (.only 'n', 105), (.small, 47), (.accountChar, 17)],
   .token .identifier [(.only '_', 46), (.only 'd', 106), (.small, 47), (.accountChar, 17)],
   .token .kwSend [(.only '_', 46), (.small, 47), (.accountChar, 17)],
   .token .identifier [(.only '_', 46), (.only 'u', 108), (.small, 47), (.accountChar, 17)],
   .token .identifier [(.only '_', 46), (.only 'r', 109), (.small, 47), (.accountChar, 17)],
   .token .identifier [(.only '_', 46), (.only 'c', 110), (.small, 47), (.accountChar, 17)],
   .token .identifier [(.only '_', 46), (.only 'e', 111), (.small, 47), (.accountChar, 17)],
   .token .kwSource [(.only '_', 46), (.small, 47), (.accountChar, 17)],
   -- 112
   .token .identifier [(.only '_', 46), (.only 'o', 113), (.small, 47), (.accountChar, 17)],
   .token .kwTo [(.only '_', 46), (.small, 47), (.accountChar, 17)],
   .token .identifier
     [(.only '_', 46), (.only 'n', 115), (.only 'p', 123), (.small, 47), (.accountChar, 17)],
   .token .identifier [(.only '_', 46), (.only 'b', 116), (.small, 47), (.accountChar, 17)],
   .token .identifier [(.only '_', 46), (.only 'o', 117), (.small, 47), (.accountChar, 17)],
   .token .identifier [(.only '_', 46), (.only 'u', 118), (.small, 47), (.accountChar, 17)],
   .token .identifier [(.only '_', 46), (.only 'n', 119), (.small, 47), (.accountChar, 17)],
   .token .identifier [(.only '_', 46), (.only 'd', 120), (.small, 47), (.accountChar, 17)],
   -- 120
   .token .identifier [(.only '_', 46), (.only 'e', 121), (.small, 47), (.accountChar, 17)],
   .token .identifier [(.only '_', 46), (.only 'd', 122), (.small, 47), (.accountChar, 17)],
   .token .kwUnbounded [(.only '_', 46), (.small, 47), (.accountChar, 17)],
   .token .kwUp [(.only '_', 46), (.small, 47), (.accountChar, 17)],
   .token .identifier [(.only '_', 46), (.only 'a', 125), (.small, 47), (.accountChar, 17)],
   .token .identifier [(.only '_', 46), (.only 'r', 126), (.small, 47), (.accountChar, 17)],
   .token .identifier [(.only '_', 46), (.only 's', 127), (.small, 47), (.accountChar, 17)],
   .token .kwVars [(.only '_', 46), (.small, 47), (.accountChar, 17)]]

/-- The states from 128 to 191. -/
def page2 : List State :=
  [.token .lbrace [],
   .token .rbrace [],
   .lastMode
     [(.only '/', 131), (.only 'o', 135), (.only 's', 144), (.only 'v', 151), (.small, 132)],
   .inside [(.only '*', 22), (.only '/', 29)],
   .token .identifier [(.only '_', 133), (.small, 134)],
   .token .identifier [(.wordChar, 133)],
   .token .identifier [(.only '_', 133), (.small, 134)],
   .token .identifier [(.only '_', 133), (.only 'v', 136), (.small, 134)],
   -- 136
   .token .identifier [(.only '_', 133), (.only 'e', 137), (.small, 134)],
   .token .identifier [(.only '_', 133), (.only 'r', 138), (.small, 134)],
   .token .identifier [(.only '_', 133), (.only 'd', 139), (.small, 134)],
   .token .identifier [(.only '_', 133), (.only 'r', 140), (.small, 134)],
   .token .identifier [(.only '_', 133), (.only 'a', 141), (.small, 134)],
   .token .identifier [(.only '_', 133), (.only 'f', 142), (.small, 134)],
   .token .identifier [(.only '_', 133), (.only 't', 143), (.small, 134)],
   .token .kwOverdraft [(.only '_', 133), (.small, 134)],
   -- 144
   .token .identifier [(.only '_', 133), (.only 'a', 145), (.only 'e', 148), (.small, 134)],
   .token .identifier [(.only '_', 133), (.only 'v', 146), (.small, 134)],
   .token .identifier [(.only '_', 133), (.only 'e', 147), (.small, 134)],
   .token .kwSave [(.only '_', 133), (.small, 134)],
   .token .identifier [(.only '_', 133), (.only 'n', 149), (.small, 134)],
   .token .identifier [(.only '_', 133), (.only 'd', 150), (.small, 134)],
   .token .kwSend [(.only '_', 133), (.small, 134)],
   .token .identifier [(.only '_', 133), (.only 'a', 152), (.small, 134)],
   -- 152
   .token .identifier [(.only '_', 133), (.only 'r', 153), (.small, 134)],
   .token .identifier [(.only '_', 133), (.only 's', 154), (.small, 134)],
   .token .kwVars [(.only '_', 133), (.small, 134)],
   .mode
     [(.only '"', 2), (.only '$', 7), (.only '(', 11), (.only '-', 156), (.only '/', 131),
      (.only '@', 37), (.only '[', 42), (.only 'm', 163), (.only 'o', 166), (.only 'r', 171),
      (.only '{', 128), (.only '}', 129), (.digit, 160), (.capital, 161), (.small, 132)],
   .inside [(.digit, 157)],
   .token .number [(.only '_', 158), (.digit, 157)],
   .inside [(.digit, 159)],
   .token .number [(.only '_', 158), (.digit, 159)],
   -- 160
   .token .number [(.only '%', 32), (.only '.', 33), (.only '_', 158), (.digit, 160)],
   .token .asset [(.only '/', 39), (.assetChar, 162)],
   .token .asset [(.only '/', 39), (.assetChar, 162)],
   .token .identifier [(.only '_', 133), (.only 'a', 164), (.small, 134)],
   .token .identifier [(.only '_', 133), (.only 'x', 165), (.small, 134)],
   .token .kwMax [(.only '_', 133), (.small, 134)],
   .token .identifier [(.only '_', 133), (.only 'n', 167), (.only 'v', 136), (.small, 134)],
   .token .identifier [(.only '_', 133), (.only 'e', 168), (.small, 134)],
   -- 168
   .token .identifier [(.only '_', 133), (.only 'o', 169), (.small, 134)],
   .token .identifier [(.only '_', 133), (.only 'f', 170), (.small, 134)],
   .token .kwOneof [(.only '_', 133), (.small, 134)],
   .token .identifier [(.only '_', 133), (.only 'e', 172), (.small, 134)],
   .token .identifier [(.only '_', 133), (.only 'm', 173), (.small, 134)],
   .token .identifier [(.only '_', 133), (.only 'a', 174), (.small, 134)],
   .token .identifier [(.only '_', 133), (.only 'i', 175), (.small, 134)],
   .token .identifier [(.only '_', 133), (.only 'n', 176), (.small, 134)],
   -- 176
   .token .identifier [(.only '_', 133), (.only 'i', 177), (.small, 134)],
   .token .identifier [(.only '_', 133), (.only 'n', 178), (.small, 134)],
   .token .identifier [(.only '_', 133), (.only 'g', 179), (.small, 134)],
   .token .kwRemaining [(.only '_', 133), (.small, 134)],
   .mode
     [(.only '"', 2), (.only '$', 7), (.only '(', 11), (.only '-', 156), (.only '/', 131),
      (.only '@', 37), (.only '[', 42), (.only 'm', 163), (.only 'o', 166), (.only '{', 128),
      (.only '}', 129), (.digit, 160), (.capital, 161), (.small, 132)],
   .mode
     [(.only '"', 2), (.only '$', 7), (.only '(', 11), (.only '-', 156), (.only '/', 131),
      (.only '@', 37), (.only '[', 42), (.only 'm', 163), (.only 'o', 166), (.only '{', 128),
      (.digit, 160), (.capital, 161), (.small, 132)],
   .mode
     [(.only '"', 2), (.only '$', 7), (.only '(', 11), (.only '-', 156), (.only '/', 131),
      (.only '@', 37), (.only '[', 42), (.only 'm', 163), (.only 'o', 135), (.only 'r', 171),
      (.digit, 160), (.capital, 161), (.small, 132)],
   .mode
     [(.only '"', 2), (.only '$', 7), (.only '(', 11), (.only '-', 156), (.only '/', 131),
      (.only '@', 37), (.only '[', 42), (.only 'o', 166), (.only '{', 128), (.digit, 160),
      (.capital, 161), (.small, 132)],
   -- 184
   .mode
     [(.only '"', 2), (.only '$', 7), (.only '(', 11), (.only '-', 156), (.only '/', 131),
      (.only '@', 37), (.only '[', 42), (.only 'o', 135), (.only 'r', 171), (.only '}', 129),
      (.digit, 160), (.capital, 161), (.small, 132)],
   .mode
     [(.only '"', 2), (.only '$', 7), (.only '(', 11), (.only '*', 13), (.only '+', 14),
      (.only '-', 186), (.only '/', 21), (.only '@', 37), (.only '[', 42), (.only 'o', 135),
      (.digit, 160), (.capital, 161), (.small, 132)],
   .token .minus [(.digit, 157)],
   .mode
     [(.only '"', 2), (.only '$', 7), (.only '(', 11), (.only '+', 14), (.only '-', 186),
      (.only '/', 21), (.only '@', 37), (.only '[', 42), (.only 'o', 135), (.digit, 160),
      (.capital, 161), (.small, 132)],
   .mode
     [(.only '"', 2), (.only '$', 7), (.only '(', 11), (.only '-', 156), (.only '/', 131),
      (.only '@', 37), (.only '[', 42), (.only 'o', 135), (.digit, 160), (.capital, 161),
      (.small, 132)],
   .mode
     [(.only '"', 2), (.only '$', 7), (.only '(', 11), (.only ')', 12), (.only '-', 156),
      (.only '/', 131), (.only '@', 37), (.only '[', 42), (.only 'o', 135), (.digit, 160),
      (.capital, 161), (.small, 132)],
   .mode
     [(.only '"', 2), (.only '$', 7), (.only '(', 11), (.only '+', 14), (.only '-', 186),
      (.only '/', 21), (.only ':', 35), (.only '@', 37), (.only '[', 42), (.only '\\', 43),
      (.only 'a', 191), (.only 'f', 199), (.only 'm', 163), (.only 'o', 166), (.only '{', 128),
      (.only '}', 129), (.digit, 160), (.capital, 161), (.small, 132)],
   .token .identifier [(.only '_', 133), (.only 'l', 192), (.small, 134)]]

/-- The states from 192 to 255. -/
def page3 : List State :=
  [.token .identifier [(.only '_', 133), (.only 'l', 193), (.small, 134)],
   .token .identifier [(.only '_', 133), (.only 'o', 194), (.small, 134)],
   .token .identifier [(.only '_', 133), (.only 'w', 195), (.small, 134)],
   .token .identifier [(.only '_', 133), (.only 'i', 196), (.small, 134)],
   .token .identifier [(.only '_', 133), (.only 'n', 197), (.small, 134)],
   .token .identifier [(.only '_', 133), (.only 'g', 198), (.small, 134)],
   .token .kwAllowing [(.only '_', 133), (.small, 134)],
   .token .identifier [(.only '_', 133), (.only 'r', 200), (.small, 134)],
   -- 200
   .token .identifier [(.only '_', 133), (.only 'o', 201), (.small, 134)],
   .token .identifier [(.only '_', 133), (.only 'm', 202), (.small, 134)],
   .token .kwFrom [(.only '_', 133), (.small, 134)],
   .mode
     [(.only '"', 2), (.only '$', 7), (.only '(', 11), (.only '+', 14), (.only '-', 186),
      (.only '/', 21), (.only ':', 35), (.only '@', 37), (.only '[', 42), (.only '\\', 43),
      (.only 'a', 191), (.only 'm', 163), (.only 'o', 166), (.only '{', 128), (.only '}', 129),
      (.digit, 160), (.capital, 161), (.small, 132)],
   .mode
     [(.only '"', 2), (.only '$', 7), (.only '(', 11), (.only '+', 14), (.only '-', 186),
      (.only '/', 21), (.only '@', 37), (.only '[', 42), (.only '\\', 43), (.only 'a', 191),
      (.only 'f', 199), (.only 'm', 163), (.only 'o', 166), (.only '{', 128), (.only '}', 129),
      (.digit, 160), (.capital, 161), (.small, 132)],
   .mode
     [(.only '"', 2), (.only '$', 7), (.only '(', 11), (.only '+', 14), (.only '-', 186),
      (.only '/', 21), (.only '@', 37), (.only '[', 42), (.only '\\', 43), (.only 'a', 191),
      (.only 'm', 163), (.only 'o', 166), (.only '{', 128), (.only '}', 129), (.digit, 160),
      (.capital, 161), (.small, 132)],
   .mode
     [(.only '"', 2), (.only '$', 7), (.only '(', 11), (.only '+', 14), (.only '-', 186),
      (.only '/', 21), (.only ':', 35), (.only '@', 37), (.only '[', 42), (.only '\\', 43),
      (.only 'a', 191), (.only 'o', 135), (.only 'r', 171), (.only '}', 129), (.digit, 160),
      (.capital, 161), (.small, 132)],
   .mode
     [(.only '"', 2), (.only '$', 7), (.only '(', 11), (.only '+', 14), (.only '-', 186),
      (.only '/', 21), (.only ':', 35), (.only '@', 37), (.only '[', 42), (.only 'm', 163),
      (.only 'o', 166), (.only '{', 128), (.only '}', 129), (.digit, 160), (.capital, 161),
      (.small, 132)],
   -- 208
   .mode
     [(.only '(', 11), (.only ')', 12), (.only '+', 14), (.only ',', 15), (.only '-', 209),
      (.only '/', 21), (.only ':', 35), (.only '\\', 43), (.only ']', 44), (.only 'a', 210),
      (.only 'd', 218), (.only 'f', 229), (.only 'k', 233), (.only 'm', 237), (.only 'r', 240),
      (.only 't', 249), (.only '}', 129)],
   .token .minus [],
   .inside [(.only 'l', 211)],
   .inside [(.only 'l', 212)],
   .inside [(.only 'o', 213)],
   .inside [(.only 'w', 214)],
   .inside [(.only 'i', 215)],
   .inside [(.only 'n', 216)],
   -- 216
   .inside [(.only 'g', 217)],
   .token .kwAllowing [],
   .inside [(.only 'e', 219)],
   .inside [(.only 's', 220)],
   .inside [(.only 't', 221)],
   .inside [(.only 'i', 222)],
   .inside [(.only 'n', 223)],
   .inside [(.only 'a', 224)],
   -- 224
   .inside [(.only 't', 225)],
   .inside [(.only 'i', 226)],
   .inside [(.only 'o', 227)],
   .inside [(.only 'n', 228)],
   .token .kwDestination [],
   .inside [(.only 'r', 230)],
   .inside [(.only 'o', 231)],
   .inside [(.only 'm', 232)],
   -- 232
   .token .kwFrom [],
   .inside [(.only 'e', 234)],
   .inside [(.only 'p', 235)],
   .inside [(.only 't', 236)],
   .token .destinationKept [],
   .inside [(.only 'a', 238)],
   .inside [(.only 'x', 239)],
   .token .kwMax [],
   -- 240
   .inside [(.only 'e', 241)],
   .inside [(.only 'm', 242)],
   .inside [(.only 'a', 243)],
   .inside [(.only 'i', 244)],
   .inside [(.only 'n', 245)],
   .inside [(.only 'i', 246)],
   .inside [(.only 'n', 247)],
   .inside [(.only 'g', 248)],
   -- 248
   .token .kwRemaining [],
   .inside [(.only 'o', 250)],
   .token .kwTo [],
   .mode
     [(.only '"', 2), (.only '$', 7), (.only '(', 11), (.only '+', 14), (.only '-', 186),
      (.only '/', 21), (.only '@', 37), (.only '[', 42), (.only '\\', 43), (.only 'a', 191),
      (.only 'o', 135), (.only 'r', 171), (.only '}', 129), (.digit, 160), (.capital, 161),
      (.small, 132)],
   .mode
     [(.only '"', 2), (.only '$', 7), (.only '(', 11), (.only '+', 14), (.only '-', 186),
      (.only '/', 21), (.only '@', 37), (.only '[', 42), (.only 'a', 191), (.only 'm', 163),
      (.only 'o', 166), (.only '{', 128), (.only '}', 129), (.digit, 160), (.capital, 161),
      (.small, 132)],
   .mode
     [(.only '"', 2), (.only '$', 7), (.only '(', 11), (.only '+', 14), (.only '-', 186),
      (.only '/', 21), (.only '@', 37), (.only '[', 42), (.only 'm', 163), (.only 'o', 166),
      (.only '{', 128), (.only '}', 129), (.digit, 160), (.capital, 161), (.small, 132)],
   .mode
     [(.only '"', 2), (.only '$', 7), (.only '(', 11), (.only '+', 14), (.only '-', 186),
      (.only '/', 21), (.only ':', 35), (.only '@', 37), (.only '[', 42), (.only 'o', 135),
      (.only 'r', 171), (.only '}', 129), (.digit, 160), (.capital, 161), (.small, 132)],
   .mode
     [(.only '(', 11), (.only ')', 12), (.only '+', 14), (.only ',', 15), (.only '-', 209),
      (.only '/', 21), (.only '\\', 43), (.only ']', 44), (.only 'a', 210), (.only 'd', 218),
      (.only 'f', 229), (.only 'k', 233), (.only 'm', 237), (.only 'r', 240), (.only 't', 249),
      (.only '}', 129)]]

/-- The states from 256 to 319. -/
def page4 : List State :=
  [.mode
     [(.only '"', 2), (.only '$', 7), (.only '(', 11), (.only '*', 13), (.only '+', 14),
      (.only '-', 186), (.only '/', 21), (.only ':', 35), (.only '@', 37), (.only '[', 42),
      (.only 'o', 135), (.digit, 160), (.capital, 161), (.small, 132)],
   .mode
     [(.only '"', 2), (.only '$', 7), (.only '(', 11), (.only '+', 14), (.only '-', 186),
      (.only '/', 21), (.only '@', 37), (.only '[', 42), (.only 'a', 191), (.only 'o', 135),
      (.only 'r', 171), (.only '}', 129), (.digit, 160), (.capital, 161), (.small, 132)],
   .mode
     [(.only '"', 2), (.only '$', 7), (.only '(', 11), (.only '+', 14), (.only '-', 186),
      (.only '/', 21), (.only '@', 37), (.only '[', 42), (.only 'o', 135), (.only 'r', 171),
      (.only '}', 129), (.digit, 160), (.capital, 161), (.small, 132)],
   .mode
     [(.only '"', 2), (.only '$', 7), (.only '(', 11), (.only '-', 156), (.only '/', 131),
      (.only '@', 37), (.only '[', 42), (.only 'a', 191), (.only 'm', 163), (.only 'o', 166),
      (.only '{', 128), (.only '}', 129), (.digit, 160), (.capital, 161), (.small, 132)],
   .lastMode
     [(.only '(', 11), (.only ')', 12), (.only '+', 14), (.only ',', 15), (.only '-', 209),
      (.only '/', 21), (.only ']', 44), (.only 'o', 135), (.only 's', 144), (.only '}', 129),
      (.small, 132)],
   .mode
     [(.only '"', 2), (.only '$', 7), (.only '(', 11), (.only '-', 156), (.only '/', 131),
      (.only '@', 37), (.only '[', 42), (.only 'a', 191), (.only 'o', 135), (.only 'r', 171),
      (.only '}', 129), (.digit, 160), (.capital, 161), (.small, 132)],
   .mode
     [(.only '"', 2), (.only '$', 7), (.only '(', 11), (.only ')', 12), (.only '-', 156),
      (.only '/', 131), (.only '@', 37), (.only '[', 42), (.only 'o', 135), (.only 'r', 171),
      (.only '}', 129), (.digit, 160), (.capital, 161), (.small, 132)],
   .lastMode [(.only '/', 131), (.only 'o', 135), (.only 's', 144), (.small, 132)],
   -- 264
   .mode
     [(.only '+', 14), (.only '-', 209), (.only '/', 21), (.only '\\', 43), (.only 'a', 210),
      (.only 'd', 218), (.only 'f', 229), (.only 'k', 233), (.only 'm', 237), (.only 'r', 240),
      (.only 't', 249)],
   .lastMode
     [(.only '+', 14), (.only '-', 209), (.only '/', 21), (.only ':', 35), (.only 'o', 135),
      (.only 's', 144), (.small, 132)],
   .lastMode
     [(.only '+', 14), (.only '-', 209), (.only '/', 21), (.only 'o', 135), (.only 's', 144),
      (.small, 132)],
   .mode
     [(.only '(', 11), (.only ')', 12), (.only '+', 14), (.only ',', 15), (.only '-', 209),
      (.only '/', 21), (.only ']', 44), (.only '}', 129)],
   .mode
     [(.only '+', 14), (.only '-', 209), (.only '/', 21), (.only ':', 35), (.only '}', 129),
      (.small, 132)],
   .mode
     [(.only '+', 14), (.only '-', 209), (.only '/', 21), (.only '\\', 43), (.only 'a', 210),
      (.only 'd', 218)],
   .mode [(.only '+', 14), (.only '-', 209), (.only '/', 21), (.only 'k', 233), (.only 't', 249)],
   .mode [(.only ')', 12), (.only '+', 14), (.only ',', 15), (.only '-', 209), (.only '/', 21)],
   -- 272
   .mode
     [(.only '+', 14), (.only '-', 209), (.only '/', 21), (.only 'f', 229), (.only 'k', 233),
      (.only 't', 249)],
   .mode [(.only '+', 14), (.only '-', 209), (.only '/', 21), (.only '}', 129), (.small, 132)],
   .mode [(.only '+', 14), (.only '-', 209), (.only '/', 21), (.only 'a', 210), (.only 'd', 218)],
   .mode [(.only ')', 12), (.only '+', 14), (.only '-', 209), (.only '/', 21), (.only '}', 129)],
   .mode [(.only '+', 14), (.only '-', 209), (.only '/', 21), (.only 'm', 237), (.only 'r', 240)],
   .mode [(.only '/', 131), (.only '}', 129), (.small, 132)],
   .mode [(.only '(', 11), (.only '+', 14), (.only '-', 209), (.only '/', 21)],
   .mode [(.only '+', 14), (.only '-', 209), (.only '/', 21), (.only 'f', 229)],
   -- 280
   .mode [(.only ')', 12), (.only '+', 14), (.only '-', 209), (.only '/', 21)],
   .mode [(.only '/', 131), (.only '=', 36), (.only '}', 129), (.small, 132)],
   .mode [(.only '+', 14), (.only '-', 209), (.only '/', 21), (.only ']', 44)],
   .mode [(.only '/', 131), (.only 'k', 233), (.only 't', 249)],
   .mode [(.only '/', 131), (.only 'm', 237), (.only 'r', 240)],
   .mode [(.only '+', 14), (.only '-', 209), (.only '/', 21), (.only 'd', 218)],
   .mode [(.only '$', 7), (.only '/', 131), (.accountChar, 17)],
   .mode [(.only '/', 131), (.only 'f', 229), (.only 'k', 233), (.only 't', 249)],
   -- 288
   .mode [(.only '(', 11), (.only '/', 131), (.only 'f', 229)],
   .mode [(.only ')', 12), (.only ',', 15), (.only '/', 131)],
   .mode [(.only '/', 131), (.only 'a', 210), (.only 'd', 218)],
   .mode [(.only '/', 131), (.only 'o', 292), (.only 'u', 301)],
   .inside [(.only 'v', 293)],
   .inside [(.only 'e', 294)],
   .inside [(.only 'r', 295)],
   .inside [(.only 'd', 296)],
   -- 296
   .inside [(.only 'r', 297)],
   .inside [(.only 'a', 298)],
   .inside [(.only 'f', 299)],
   .inside [(.only 't', 300)],
   .token .kwOverdraft [],
   .inside [(.only 'n', 302)],
   .inside [(.only 'b', 303)],
   .inside [(.only 'o', 304)],
   -- 304
   .inside [(.only 'u', 305)],
   .inside [(.only 'n', 306)],
   .inside [(.only 'd', 307)],
   .inside [(.only 'e', 308)],
   .inside [(.only 'd', 309)],
   .token .kwUnbounded [],
   .mode [(.only '/', 131), (.only '{', 128)],
   .mode [(.only '(', 11), (.only '/', 131)],
   -- 312
   .lastMode [(.only '/', 131)],
   .mode [(.only '/', 131), (.only 'f', 229)],
   .mode [(.only '$', 7), (.only '/', 131)],
   .mode [(.only '/', 131), (.only 's', 316)],
   .inside [(.only 'o', 317)],
   .inside [(.only 'u', 318)],
   .inside [(.only 'r', 319)],
   .inside [(.only 'c', 320)]]

/-- The states from 320 to 331. -/
def page5 : List State :=
  [.inside [(.only 'e', 321)],
   .token .kwSource [],
   .mode [(.only ')', 12), (.only '/', 131)],
   .mode [(.only '/', 131), (.only '=', 36)],
   .mode [(.only '/', 131), (.only ']', 44)],
   .mode [(.only '/', 131), (.only 'd', 218)],
   .mode [(.only '/', 131), (.only 'o', 292)],
   .mode [(.only '/', 131), (.only 'u', 328)],
   -- 328
   .inside [(.only 'p', 329)],
   .token .kwUp [],
   .mode [(.only '/', 131), (.only 't', 249)],
   .mode [(.only '/', 131), (.only '}', 129)]]

end Numscript.Lexer
