/-!
# The packed rows

The rows of the states from 2 on, and where each of them starts in the table that they share.
-/
namespace Numscript.Packed

/-- The rows of the states from 2 to 65. -/
def rows0 : List (List Nat) :=
  [[42, 17, 1, 4, 19, 1, 5, 21, 1, 8, 23, 1, 14, 25, 1, 17, 27, 1, 22, 29, 1, 28, 31, 1, 29, 33, 1,
    30, 35, 1, 33, 37, 1, 34, 39, 1, 35, 41, 1, 36, 43, 1, 37, 45, 1, 38, 133, 1, 50, 134, 1, 51,
    135, 1, 52, 136, 1, 53, 137, 1, 54, 138, 1, 56, 139, 1, 57, 140, 1, 58, 141, 1, 59, 142, 1, 60,
    143, 1, 61, 149, 1, 62, 355, 1, 64, 347, 1, 65, 348, 1, 66, 349, 1, 67, 350, 1, 68, 351, 1, 69,
    352, 1, 70, 353, 1, 71, 385, 1, 72, 649, 1, 82, 557, 1, 83, 558, 1, 84, 25, 1, 90, 5, 1, 91, 3,
    2, 1, 2],
   [42, 17, 1, 4, 47, 1, 5, 21, 1, 8, 23, 1, 14, 25, 1, 17, 27, 1, 22, 29, 1, 28, 31, 1, 29, 33, 1,
    30, 35, 1, 33, 37, 1, 34, 39, 1, 35, 41, 1, 36, 43, 1, 37, 45, 1, 38, 133, 1, 50, 134, 1, 51,
    135, 1, 52, 136, 1, 53, 137, 1, 54, 138, 1, 56, 139, 1, 57, 140, 1, 58, 141, 1, 59, 142, 1, 60,
    143, 1, 61, 149, 1, 62, 355, 1, 64, 347, 1, 65, 348, 1, 66, 349, 1, 67, 350, 1, 68, 351, 1, 69,
    352, 1, 70, 353, 1, 71, 385, 1, 72, 649, 1, 82, 557, 1, 83, 558, 1, 84, 26, 1, 90, 6, 1, 91, 3,
    2, 1, 2],
   [42, 17, 1, 4, 49, 1, 5, 21, 1, 8, 23, 1, 14, 25, 1, 17, 27, 1, 22, 29, 1, 28, 31, 1, 29, 33, 1,
    30, 35, 1, 33, 37, 1, 34, 39, 1, 35, 41, 1, 36, 43, 1, 37, 45, 1, 38, 133, 1, 50, 134, 1, 51,
    135, 1, 52, 136, 1, 53, 137, 1, 54, 138, 1, 56, 139, 1, 57, 140, 1, 58, 141, 1, 59, 142, 1, 60,
    143, 1, 61, 149, 1, 62, 355, 1, 64, 347, 1, 65, 348, 1, 66, 349, 1, 67, 350, 1, 68, 351, 1, 69,
    352, 1, 70, 353, 1, 71, 385, 1, 72, 649, 1, 82, 557, 1, 83, 558, 1, 84, 27, 1, 90, 7, 1, 91, 3,
    2, 1, 2],
   [35, 17, 1, 4, 51, 1, 5, 53, 1, 8, 55, 1, 14, 57, 1, 17, 59, 1, 22, 29, 1, 28, 31, 1, 29, 61, 1,
    33, 63, 1, 34, 65, 1, 35, 67, 1, 36, 69, 1, 37, 71, 1, 38, 163, 1, 50, 165, 1, 51, 166, 1, 52,
    167, 1, 53, 168, 1, 54, 169, 1, 56, 170, 1, 57, 171, 1, 58, 172, 1, 59, 173, 1, 60, 174, 1, 61,
    180, 1, 62, 358, 1, 64, 347, 1, 65, 348, 1, 66, 349, 1, 67, 350, 1, 68, 351, 1, 69, 352, 1, 70,
    353, 1, 71, 3, 2, 1, 2],
   [35, 17, 1, 4, 73, 1, 5, 53, 1, 8, 55, 1, 14, 57, 1, 17, 59, 1, 22, 29, 1, 28, 31, 1, 29, 61, 1,
    33, 63, 1, 34, 65, 1, 35, 67, 1, 36, 69, 1, 37, 71, 1, 38, 163, 1, 50, 165, 1, 51, 166, 1, 52,
    167, 1, 53, 168, 1, 54, 169, 1, 56, 170, 1, 57, 171, 1, 58, 172, 1, 59, 173, 1, 60, 174, 1, 61,
    180, 1, 62, 358, 1, 64, 347, 1, 65, 348, 1, 66, 349, 1, 67, 350, 1, 68, 351, 1, 69, 352, 1, 70,
    353, 1, 71, 3, 2, 1, 2],
   [35, 17, 1, 4, 75, 1, 5, 53, 1, 8, 55, 1, 14, 57, 1, 17, 59, 1, 22, 29, 1, 28, 31, 1, 29, 61, 1,
    33, 63, 1, 34, 65, 1, 35, 67, 1, 36, 69, 1, 37, 71, 1, 38, 163, 1, 50, 165, 1, 51, 166, 1, 52,
    167, 1, 53, 168, 1, 54, 169, 1, 56, 170, 1, 57, 171, 1, 58, 172, 1, 59, 173, 1, 60, 174, 1, 61,
    180, 1, 62, 358, 1, 64, 347, 1, 65, 348, 1, 66, 349, 1, 67, 350, 1, 68, 351, 1, 69, 352, 1, 70,
    353, 1, 71, 3, 2, 1, 2],
   [35, 17, 1, 4, 53, 1, 8, 55, 1, 14, 57, 1, 17, 59, 1, 22, 29, 1, 28, 31, 1, 29, 61, 1, 33, 63, 1,
    34, 65, 1, 35, 67, 1, 36, 69, 1, 37, 71, 1, 38, 163, 1, 50, 165, 1, 51, 166, 1, 52, 167, 1, 53,
    168, 1, 54, 169, 1, 56, 170, 1, 57, 171, 1, 58, 172, 1, 59, 173, 1, 60, 174, 1, 61, 180, 1, 62,
    355, 1, 64, 347, 1, 65, 348, 1, 66, 349, 1, 67, 350, 1, 68, 351, 1, 69, 352, 1, 70, 353, 1, 71,
    11, 1, 91, 3, 2, 1, 2],
   [35, 17, 1, 4, 53, 1, 8, 55, 1, 14, 57, 1, 17, 59, 1, 22, 29, 1, 28, 31, 1, 29, 61, 1, 33, 63, 1,
    34, 65, 1, 35, 67, 1, 36, 69, 1, 37, 71, 1, 38, 163, 1, 50, 165, 1, 51, 166, 1, 52, 167, 1, 53,
    168, 1, 54, 169, 1, 56, 170, 1, 57, 171, 1, 58, 172, 1, 59, 173, 1, 60, 174, 1, 61, 180, 1, 62,
    355, 1, 64, 347, 1, 65, 348, 1, 66, 349, 1, 67, 350, 1, 68, 351, 1, 69, 352, 1, 70, 353, 1, 71,
    12, 1, 91, 3, 2, 1, 2],
   [35, 17, 1, 4, 53, 1, 8, 55, 1, 14, 57, 1, 17, 59, 1, 22, 29, 1, 28, 31, 1, 29, 61, 1, 33, 63, 1,
    34, 65, 1, 35, 67, 1, 36, 69, 1, 37, 71, 1, 38, 163, 1, 50, 165, 1, 51, 166, 1, 52, 167, 1, 53,
    168, 1, 54, 169, 1, 56, 170, 1, 57, 171, 1, 58, 172, 1, 59, 173, 1, 60, 174, 1, 61, 180, 1, 62,
    355, 1, 64, 347, 1, 65, 348, 1, 66, 349, 1, 67, 350, 1, 68, 351, 1, 69, 352, 1, 70, 353, 1, 71,
    13, 1, 91, 3, 2, 1, 2],
   [35, 17, 1, 4, 77, 1, 5, 53, 1, 8, 55, 1, 14, 57, 1, 17, 59, 1, 22, 29, 1, 28, 31, 1, 29, 61, 1,
    33, 63, 1, 34, 65, 1, 35, 67, 1, 36, 69, 1, 37, 71, 1, 38, 163, 1, 50, 165, 1, 51, 166, 1, 52,
    167, 1, 53, 168, 1, 54, 169, 1, 56, 170, 1, 57, 171, 1, 58, 172, 1, 59, 173, 1, 60, 174, 1, 61,
    180, 1, 62, 358, 1, 64, 347, 1, 65, 348, 1, 66, 349, 1, 67, 350, 1, 68, 351, 1, 69, 352, 1, 70,
    353, 1, 71, 3, 2, 1, 2],
   [35, 17, 1, 4, 79, 1, 5, 53, 1, 8, 55, 1, 14, 57, 1, 17, 59, 1, 22, 29, 1, 28, 31, 1, 29, 61, 1,
    33, 63, 1, 34, 65, 1, 35, 67, 1, 36, 69, 1, 37, 71, 1, 38, 163, 1, 50, 165, 1, 51, 166, 1, 52,
    167, 1, 53, 168, 1, 54, 169, 1, 56, 170, 1, 57, 171, 1, 58, 172, 1, 59, 173, 1, 60, 174, 1, 61,
    180, 1, 62, 358, 1, 64, 347, 1, 65, 348, 1, 66, 349, 1, 67, 350, 1, 68, 351, 1, 69, 352, 1, 70,
    353, 1, 71, 3, 2, 1, 2],
   [35, 17, 1, 4, 81, 1, 5, 53, 1, 8, 55, 1, 14, 57, 1, 17, 59, 1, 22, 29, 1, 28, 31, 1, 29, 61, 1,
    33, 63, 1, 34, 65, 1, 35, 67, 1, 36, 69, 1, 37, 71, 1, 38, 163, 1, 50, 165, 1, 51, 166, 1, 52,
    167, 1, 53, 168, 1, 54, 169, 1, 56, 170, 1, 57, 171, 1, 58, 172, 1, 59, 173, 1, 60, 174, 1, 61,
    180, 1, 62, 358, 1, 64, 347, 1, 65, 348, 1, 66, 349, 1, 67, 350, 1, 68, 351, 1, 69, 352, 1, 70,
    353, 1, 71, 3, 2, 1, 2],
   [34, 83, 1, 4, 85, 1, 8, 87, 1, 14, 89, 1, 17, 91, 1, 22, 93, 1, 28, 95, 1, 29, 97, 1, 33, 99, 1,
    34, 101, 1, 35, 103, 1, 36, 105, 1, 37, 107, 1, 38, 442, 1, 50, 263, 1, 51, 264, 1, 52, 265, 1,
    53, 266, 1, 54, 267, 1, 56, 268, 1, 57, 269, 1, 58, 270, 1, 59, 271, 1, 60, 272, 1, 61, 278, 1,
    62, 636, 1, 64, 637, 1, 65, 638, 1, 66, 639, 1, 67, 640, 1, 68, 641, 1, 69, 642, 1, 70, 643, 1,
    71, 3, 2, 1, 2],
   [34, 109, 1, 4, 111, 1, 8, 113, 1, 14, 115, 1, 17, 117, 1, 22, 119, 1, 28, 121, 1, 29, 123, 1,
    33, 125, 1, 34, 127, 1, 35, 129, 1, 36, 131, 1, 37, 133, 1, 38, 201, 1, 50, 205, 1, 51, 207, 1,
    52, 209, 1, 53, 211, 1, 54, 213, 1, 56, 215, 1, 57, 217, 1, 58, 219, 1, 59, 221, 1, 60, 223, 1,
    61, 235, 1, 62, 390, 1, 64, 377, 1, 65, 378, 1, 66, 379, 1, 67, 380, 1, 68, 381, 1, 69, 382, 1,
    70, 383, 1, 71, 3, 2, 1, 2],
   [34, 83, 1, 4, 85, 1, 8, 87, 1, 14, 89, 1, 17, 91, 1, 22, 93, 1, 28, 95, 1, 29, 97, 1, 33, 99, 1,
    34, 101, 1, 35, 103, 1, 36, 105, 1, 37, 107, 1, 38, 442, 1, 50, 263, 1, 51, 264, 1, 52, 265, 1,
    53, 266, 1, 54, 267, 1, 56, 268, 1, 57, 269, 1, 58, 270, 1, 59, 271, 1, 60, 272, 1, 61, 278, 1,
    62, 672, 1, 64, 637, 1, 65, 638, 1, 66, 639, 1, 67, 640, 1, 68, 641, 1, 69, 642, 1, 70, 643, 1,
    71, 3, 2, 1, 2],
   [34, 17, 1, 4, 53, 1, 8, 55, 1, 14, 57, 1, 17, 59, 1, 22, 29, 1, 28, 31, 1, 29, 61, 1, 33, 63, 1,
    34, 65, 1, 35, 67, 1, 36, 69, 1, 37, 71, 1, 38, 163, 1, 50, 165, 1, 51, 166, 1, 52, 167, 1, 53,
    168, 1, 54, 169, 1, 56, 170, 1, 57, 171, 1, 58, 172, 1, 59, 173, 1, 60, 174, 1, 61, 180, 1, 62,
    361, 1, 64, 347, 1, 65, 348, 1, 66, 349, 1, 67, 350, 1, 68, 351, 1, 69, 352, 1, 70, 353, 1, 71,
    3, 2, 1, 2],
   [34, 109, 1, 4, 111, 1, 8, 113, 1, 14, 115, 1, 17, 117, 1, 22, 119, 1, 28, 121, 1, 29, 123, 1,
    33, 125, 1, 34, 127, 1, 35, 129, 1, 36, 131, 1, 37, 133, 1, 38, 201, 1, 50, 205, 1, 51, 207, 1,
    52, 209, 1, 53, 211, 1, 54, 213, 1, 56, 215, 1, 57, 217, 1, 58, 219, 1, 59, 221, 1, 60, 223, 1,
    61, 235, 1, 62, 392, 1, 64, 377, 1, 65, 378, 1, 66, 379, 1, 67, 380, 1, 68, 381, 1, 69, 382, 1,
    70, 383, 1, 71, 3, 2, 1, 2],
   [32, 85, 1, 8, 87, 1, 14, 89, 1, 17, 91, 1, 22, 135, 1, 29, 137, 1, 30, 97, 1, 33, 99, 1, 34,
    101, 1, 35, 103, 1, 36, 105, 1, 37, 107, 1, 38, 450, 1, 50, 263, 1, 51, 264, 1, 52, 265, 1, 53,
    266, 1, 54, 267, 1, 56, 268, 1, 57, 269, 1, 58, 270, 1, 59, 271, 1, 60, 272, 1, 61, 278, 1, 62,
    393, 1, 78, 581, 1, 79, 518, 1, 82, 557, 1, 83, 558, 1, 84, 28, 1, 92, 560, 1, 93, 3, 2, 1, 2],
   [32, 85, 1, 8, 87, 1, 14, 89, 1, 17, 91, 1, 22, 135, 1, 29, 139, 1, 30, 97, 1, 33, 99, 1, 34,
    101, 1, 35, 103, 1, 36, 105, 1, 37, 107, 1, 38, 450, 1, 50, 263, 1, 51, 264, 1, 52, 265, 1, 53,
    266, 1, 54, 267, 1, 56, 268, 1, 57, 269, 1, 58, 270, 1, 59, 271, 1, 60, 272, 1, 61, 278, 1, 62,
    393, 1, 78, 581, 1, 79, 518, 1, 82, 557, 1, 83, 558, 1, 84, 29, 1, 92, 561, 1, 93, 3, 2, 1, 2],
   [30, 141, 1, 4, 85, 1, 8, 87, 1, 14, 89, 1, 17, 13, 1, 22, 143, 1, 28, 97, 1, 33, 15, 1, 34, 101,
    1, 35, 103, 1, 36, 105, 1, 37, 107, 1, 38, 488, 1, 50, 263, 1, 51, 264, 1, 52, 265, 1, 53, 266,
    1, 54, 267, 1, 56, 268, 1, 57, 269, 1, 58, 270, 1, 59, 271, 1, 60, 272, 1, 61, 278, 1, 62, 658,
    1, 73, 368, 1, 74, 369, 1, 75, 370, 1, 76, 371, 1, 77, 3, 2, 1, 2],
   [30, 141, 1, 4, 85, 1, 8, 87, 1, 14, 89, 1, 17, 13, 1, 22, 143, 1, 28, 97, 1, 33, 15, 1, 34, 101,
    1, 35, 103, 1, 36, 105, 1, 37, 107, 1, 38, 488, 1, 50, 263, 1, 51, 264, 1, 52, 265, 1, 53, 266,
    1, 54, 267, 1, 56, 268, 1, 57, 269, 1, 58, 270, 1, 59, 271, 1, 60, 272, 1, 61, 278, 1, 62, 399,
    1, 73, 368, 1, 74, 369, 1, 75, 370, 1, 76, 371, 1, 77, 3, 2, 1, 2],
   [30, 141, 1, 4, 145, 1, 8, 147, 1, 14, 149, 1, 17, 151, 1, 22, 143, 1, 28, 153, 1, 33, 155, 1,
    34, 157, 1, 35, 159, 1, 36, 161, 1, 37, 163, 1, 38, 319, 1, 50, 288, 1, 51, 289, 1, 52, 290, 1,
    53, 291, 1, 54, 292, 1, 56, 293, 1, 57, 294, 1, 58, 295, 1, 59, 296, 1, 60, 297, 1, 61, 303, 1,
    62, 399, 1, 73, 368, 1, 74, 369, 1, 75, 370, 1, 76, 371, 1, 77, 3, 2, 1, 2],
   [30, 165, 1, 4, 85, 1, 8, 87, 1, 14, 89, 1, 17, 91, 1, 22, 167, 1, 28, 97, 1, 33, 99, 1, 34, 101,
    1, 35, 103, 1, 36, 105, 1, 37, 107, 1, 38, 489, 1, 50, 263, 1, 51, 264, 1, 52, 265, 1, 53, 266,
    1, 54, 267, 1, 56, 268, 1, 57, 269, 1, 58, 270, 1, 59, 271, 1, 60, 272, 1, 61, 278, 1, 62, 587,
    1, 73, 577, 1, 74, 578, 1, 75, 579, 1, 76, 580, 1, 77, 3, 2, 1, 2],
   [29, 169, 1, 5, 85, 1, 8, 87, 1, 14, 89, 1, 17, 91, 1, 22, 33, 1, 30, 97, 1, 33, 99, 1, 34, 101,
    1, 35, 103, 1, 36, 105, 1, 37, 107, 1, 38, 450, 1, 50, 263, 1, 51, 264, 1, 52, 265, 1, 53, 266,
    1, 54, 267, 1, 56, 268, 1, 57, 269, 1, 58, 270, 1, 59, 271, 1, 60, 272, 1, 61, 278, 1, 62, 387,
    1, 72, 649, 1, 82, 557, 1, 83, 558, 1, 84, 3, 2, 1, 2],
   [29, 171, 1, 5, 85, 1, 8, 87, 1, 14, 89, 1, 17, 91, 1, 22, 33, 1, 30, 97, 1, 33, 99, 1, 34, 101,
    1, 35, 103, 1, 36, 105, 1, 37, 107, 1, 38, 450, 1, 50, 263, 1, 51, 264, 1, 52, 265, 1, 53, 266,
    1, 54, 267, 1, 56, 268, 1, 57, 269, 1, 58, 270, 1, 59, 271, 1, 60, 272, 1, 61, 278, 1, 62, 387,
    1, 72, 649, 1, 82, 557, 1, 83, 558, 1, 84, 3, 2, 1, 2],
   [29, 173, 1, 5, 85, 1, 8, 87, 1, 14, 89, 1, 17, 91, 1, 22, 33, 1, 30, 97, 1, 33, 99, 1, 34, 101,
    1, 35, 103, 1, 36, 105, 1, 37, 107, 1, 38, 450, 1, 50, 263, 1, 51, 264, 1, 52, 265, 1, 53, 266,
    1, 54, 267, 1, 56, 268, 1, 57, 269, 1, 58, 270, 1, 59, 271, 1, 60, 272, 1, 61, 278, 1, 62, 387,
    1, 72, 649, 1, 82, 557, 1, 83, 558, 1, 84, 3, 2, 1, 2],
   [29, 175, 1, 5, 85, 1, 8, 87, 1, 14, 89, 1, 17, 91, 1, 22, 33, 1, 30, 97, 1, 33, 99, 1, 34, 101,
    1, 35, 103, 1, 36, 105, 1, 37, 107, 1, 38, 450, 1, 50, 263, 1, 51, 264, 1, 52, 265, 1, 53, 266,
    1, 54, 267, 1, 56, 268, 1, 57, 269, 1, 58, 270, 1, 59, 271, 1, 60, 272, 1, 61, 278, 1, 62, 395,
    1, 78, 518, 1, 82, 557, 1, 83, 558, 1, 84, 3, 2, 1, 2],
   [29, 177, 1, 5, 85, 1, 8, 87, 1, 14, 89, 1, 17, 91, 1, 22, 33, 1, 30, 97, 1, 33, 99, 1, 34, 101,
    1, 35, 103, 1, 36, 105, 1, 37, 107, 1, 38, 450, 1, 50, 263, 1, 51, 264, 1, 52, 265, 1, 53, 266,
    1, 54, 267, 1, 56, 268, 1, 57, 269, 1, 58, 270, 1, 59, 271, 1, 60, 272, 1, 61, 278, 1, 62, 395,
    1, 78, 518, 1, 82, 557, 1, 83, 558, 1, 84, 3, 2, 1, 2],
   [27, 85, 1, 8, 87, 1, 14, 181, 1, 15, 89, 1, 17, 183, 1, 19, 185, 1, 20, 187, 1, 21, 13, 1, 22,
    97, 1, 33, 15, 1, 34, 101, 1, 35, 103, 1, 36, 105, 1, 37, 107, 1, 38, 504, 1, 50, 263, 1, 51,
    264, 1, 52, 265, 1, 53, 266, 1, 54, 267, 1, 56, 268, 1, 57, 269, 1, 58, 270, 1, 59, 271, 1, 60,
    272, 1, 61, 278, 1, 62, 179, 2, 1, 2],
   [26, 85, 1, 8, 87, 1, 14, 89, 1, 17, 183, 1, 19, 185, 1, 20, 187, 1, 21, 13, 1, 22, 97, 1, 33,
    15, 1, 34, 101, 1, 35, 103, 1, 36, 105, 1, 37, 107, 1, 38, 505, 1, 50, 263, 1, 51, 264, 1, 52,
    265, 1, 53, 266, 1, 54, 267, 1, 56, 268, 1, 57, 269, 1, 58, 270, 1, 59, 271, 1, 60, 272, 1, 61,
    278, 1, 62, 179, 2, 1, 2],
   [26, 85, 1, 8, 87, 1, 14, 89, 1, 17, 183, 1, 19, 185, 1, 20, 187, 1, 21, 13, 1, 22, 97, 1, 33,
    15, 1, 34, 101, 1, 35, 103, 1, 36, 105, 1, 37, 107, 1, 38, 504, 1, 50, 263, 1, 51, 264, 1, 52,
    265, 1, 53, 266, 1, 54, 267, 1, 56, 268, 1, 57, 269, 1, 58, 270, 1, 59, 271, 1, 60, 272, 1, 61,
    278, 1, 62, 179, 2, 1, 2],
   [26, 85, 1, 8, 87, 1, 14, 89, 1, 17, 183, 1, 19, 185, 1, 20, 187, 1, 21, 13, 1, 22, 97, 1, 33,
    15, 1, 34, 101, 1, 35, 103, 1, 36, 105, 1, 37, 107, 1, 38, 506, 1, 50, 263, 1, 51, 264, 1, 52,
    265, 1, 53, 266, 1, 54, 267, 1, 56, 268, 1, 57, 269, 1, 58, 270, 1, 59, 271, 1, 60, 272, 1, 61,
    278, 1, 62, 179, 2, 1, 2],
   [26, 85, 1, 8, 87, 1, 14, 89, 1, 17, 183, 1, 19, 185, 1, 20, 187, 1, 21, 13, 1, 22, 97, 1, 33,
    15, 1, 34, 101, 1, 35, 103, 1, 36, 105, 1, 37, 107, 1, 38, 507, 1, 50, 263, 1, 51, 264, 1, 52,
    265, 1, 53, 266, 1, 54, 267, 1, 56, 268, 1, 57, 269, 1, 58, 270, 1, 59, 271, 1, 60, 272, 1, 61,
    278, 1, 62, 179, 2, 1, 2],
   [26, 85, 1, 8, 87, 1, 14, 89, 1, 17, 183, 1, 19, 185, 1, 20, 187, 1, 21, 13, 1, 22, 97, 1, 33,
    15, 1, 34, 101, 1, 35, 103, 1, 36, 105, 1, 37, 107, 1, 38, 508, 1, 50, 263, 1, 51, 264, 1, 52,
    265, 1, 53, 266, 1, 54, 267, 1, 56, 268, 1, 57, 269, 1, 58, 270, 1, 59, 271, 1, 60, 272, 1, 61,
    278, 1, 62, 179, 2, 1, 2],
   [26, 85, 1, 8, 87, 1, 14, 89, 1, 17, 183, 1, 19, 185, 1, 20, 187, 1, 21, 13, 1, 22, 97, 1, 33,
    15, 1, 34, 101, 1, 35, 103, 1, 36, 105, 1, 37, 107, 1, 38, 509, 1, 50, 263, 1, 51, 264, 1, 52,
    265, 1, 53, 266, 1, 54, 267, 1, 56, 268, 1, 57, 269, 1, 58, 270, 1, 59, 271, 1, 60, 272, 1, 61,
    278, 1, 62, 179, 2, 1, 2],
   [26, 85, 1, 8, 87, 1, 14, 89, 1, 17, 183, 1, 19, 185, 1, 20, 187, 1, 21, 13, 1, 22, 97, 1, 33,
    15, 1, 34, 101, 1, 35, 103, 1, 36, 105, 1, 37, 107, 1, 38, 510, 1, 50, 263, 1, 51, 264, 1, 52,
    265, 1, 53, 266, 1, 54, 267, 1, 56, 268, 1, 57, 269, 1, 58, 270, 1, 59, 271, 1, 60, 272, 1, 61,
    278, 1, 62, 179, 2, 1, 2],
   [26, 85, 1, 8, 87, 1, 14, 89, 1, 17, 183, 1, 19, 185, 1, 20, 187, 1, 21, 13, 1, 22, 97, 1, 33,
    15, 1, 34, 101, 1, 35, 103, 1, 36, 105, 1, 37, 107, 1, 38, 511, 1, 50, 263, 1, 51, 264, 1, 52,
    265, 1, 53, 266, 1, 54, 267, 1, 56, 268, 1, 57, 269, 1, 58, 270, 1, 59, 271, 1, 60, 272, 1, 61,
    278, 1, 62, 179, 2, 1, 2],
   [26, 85, 1, 8, 87, 1, 14, 89, 1, 17, 183, 1, 19, 185, 1, 20, 187, 1, 21, 13, 1, 22, 97, 1, 33,
    15, 1, 34, 101, 1, 35, 103, 1, 36, 105, 1, 37, 107, 1, 38, 512, 1, 50, 263, 1, 51, 264, 1, 52,
    265, 1, 53, 266, 1, 54, 267, 1, 56, 268, 1, 57, 269, 1, 58, 270, 1, 59, 271, 1, 60, 272, 1, 61,
    278, 1, 62, 179, 2, 1, 2],
   [25, 85, 1, 8, 189, 1, 14, 89, 1, 17, 13, 1, 22, 97, 1, 33, 15, 1, 34, 101, 1, 35, 103, 1, 36,
    105, 1, 37, 107, 1, 38, 612, 1, 48, 564, 1, 49, 492, 1, 50, 263, 1, 51, 264, 1, 52, 265, 1, 53,
    266, 1, 54, 267, 1, 56, 268, 1, 57, 269, 1, 58, 270, 1, 59, 271, 1, 60, 272, 1, 61, 278, 1, 62,
    3, 2, 1, 2],
   [25, 85, 1, 8, 189, 1, 14, 89, 1, 17, 91, 1, 22, 97, 1, 33, 99, 1, 34, 101, 1, 35, 103, 1, 36,
    105, 1, 37, 107, 1, 38, 613, 1, 48, 564, 1, 49, 493, 1, 50, 263, 1, 51, 264, 1, 52, 265, 1, 53,
    266, 1, 54, 267, 1, 56, 268, 1, 57, 269, 1, 58, 270, 1, 59, 271, 1, 60, 272, 1, 61, 278, 1, 62,
    3, 2, 1, 2],
   [25, 85, 1, 8, 191, 1, 11, 87, 1, 14, 89, 1, 17, 13, 1, 22, 97, 1, 33, 15, 1, 34, 101, 1, 35,
    103, 1, 36, 105, 1, 37, 107, 1, 38, 446, 1, 50, 263, 1, 51, 264, 1, 52, 265, 1, 53, 266, 1, 54,
    267, 1, 56, 268, 1, 57, 269, 1, 58, 270, 1, 59, 271, 1, 60, 272, 1, 61, 278, 1, 62, 616, 1, 63,
    3, 2, 1, 2],
   [25, 85, 1, 8, 193, 1, 11, 87, 1, 14, 89, 1, 17, 13, 1, 22, 97, 1, 33, 15, 1, 34, 101, 1, 35,
    103, 1, 36, 105, 1, 37, 107, 1, 38, 446, 1, 50, 263, 1, 51, 264, 1, 52, 265, 1, 53, 266, 1, 54,
    267, 1, 56, 268, 1, 57, 269, 1, 58, 270, 1, 59, 271, 1, 60, 272, 1, 61, 278, 1, 62, 617, 1, 63,
    3, 2, 1, 2],
   [25, 85, 1, 8, 195, 1, 11, 87, 1, 14, 89, 1, 17, 13, 1, 22, 97, 1, 33, 15, 1, 34, 101, 1, 35,
    103, 1, 36, 105, 1, 37, 107, 1, 38, 446, 1, 50, 263, 1, 51, 264, 1, 52, 265, 1, 53, 266, 1, 54,
    267, 1, 56, 268, 1, 57, 269, 1, 58, 270, 1, 59, 271, 1, 60, 272, 1, 61, 278, 1, 62, 618, 1, 63,
    3, 2, 1, 2],
   [25, 85, 1, 8, 197, 1, 11, 87, 1, 14, 89, 1, 17, 13, 1, 22, 97, 1, 33, 15, 1, 34, 101, 1, 35,
    103, 1, 36, 105, 1, 37, 107, 1, 38, 446, 1, 50, 263, 1, 51, 264, 1, 52, 265, 1, 53, 266, 1, 54,
    267, 1, 56, 268, 1, 57, 269, 1, 58, 270, 1, 59, 271, 1, 60, 272, 1, 61, 278, 1, 62, 619, 1, 63,
    3, 2, 1, 2],
   [25, 85, 1, 8, 199, 1, 11, 87, 1, 14, 89, 1, 17, 13, 1, 22, 97, 1, 33, 15, 1, 34, 101, 1, 35,
    103, 1, 36, 105, 1, 37, 107, 1, 38, 446, 1, 50, 263, 1, 51, 264, 1, 52, 265, 1, 53, 266, 1, 54,
    267, 1, 56, 268, 1, 57, 269, 1, 58, 270, 1, 59, 271, 1, 60, 272, 1, 61, 278, 1, 62, 620, 1, 63,
    3, 2, 1, 2],
   [25, 85, 1, 8, 201, 1, 11, 87, 1, 14, 89, 1, 17, 13, 1, 22, 97, 1, 33, 15, 1, 34, 101, 1, 35,
    103, 1, 36, 105, 1, 37, 107, 1, 38, 446, 1, 50, 263, 1, 51, 264, 1, 52, 265, 1, 53, 266, 1, 54,
    267, 1, 56, 268, 1, 57, 269, 1, 58, 270, 1, 59, 271, 1, 60, 272, 1, 61, 278, 1, 62, 621, 1, 63,
    3, 2, 1, 2],
   [25, 85, 1, 8, 203, 1, 11, 87, 1, 14, 89, 1, 17, 13, 1, 22, 97, 1, 33, 15, 1, 34, 101, 1, 35,
    103, 1, 36, 105, 1, 37, 107, 1, 38, 446, 1, 50, 263, 1, 51, 264, 1, 52, 265, 1, 53, 266, 1, 54,
    267, 1, 56, 268, 1, 57, 269, 1, 58, 270, 1, 59, 271, 1, 60, 272, 1, 61, 278, 1, 62, 622, 1, 63,
    3, 2, 1, 2],
   [25, 85, 1, 8, 205, 1, 11, 87, 1, 14, 89, 1, 17, 13, 1, 22, 97, 1, 33, 15, 1, 34, 101, 1, 35,
    103, 1, 36, 105, 1, 37, 107, 1, 38, 446, 1, 50, 263, 1, 51, 264, 1, 52, 265, 1, 53, 266, 1, 54,
    267, 1, 56, 268, 1, 57, 269, 1, 58, 270, 1, 59, 271, 1, 60, 272, 1, 61, 278, 1, 62, 623, 1, 63,
    3, 2, 1, 2],
   [25, 85, 1, 8, 207, 1, 11, 87, 1, 14, 89, 1, 17, 13, 1, 22, 97, 1, 33, 15, 1, 34, 101, 1, 35,
    103, 1, 36, 105, 1, 37, 107, 1, 38, 446, 1, 50, 263, 1, 51, 264, 1, 52, 265, 1, 53, 266, 1, 54,
    267, 1, 56, 268, 1, 57, 269, 1, 58, 270, 1, 59, 271, 1, 60, 272, 1, 61, 278, 1, 62, 624, 1, 63,
    3, 2, 1, 2],
   [25, 85, 1, 8, 209, 1, 11, 87, 1, 14, 89, 1, 17, 13, 1, 22, 97, 1, 33, 15, 1, 34, 101, 1, 35,
    103, 1, 36, 105, 1, 37, 107, 1, 38, 446, 1, 50, 263, 1, 51, 264, 1, 52, 265, 1, 53, 266, 1, 54,
    267, 1, 56, 268, 1, 57, 269, 1, 58, 270, 1, 59, 271, 1, 60, 272, 1, 61, 278, 1, 62, 625, 1, 63,
    3, 2, 1, 2],
   [25, 85, 1, 8, 211, 1, 11, 87, 1, 14, 89, 1, 17, 13, 1, 22, 97, 1, 33, 15, 1, 34, 101, 1, 35,
    103, 1, 36, 105, 1, 37, 107, 1, 38, 446, 1, 50, 263, 1, 51, 264, 1, 52, 265, 1, 53, 266, 1, 54,
    267, 1, 56, 268, 1, 57, 269, 1, 58, 270, 1, 59, 271, 1, 60, 272, 1, 61, 278, 1, 62, 626, 1, 63,
    3, 2, 1, 2],
   [25, 85, 1, 8, 213, 1, 11, 87, 1, 14, 89, 1, 17, 13, 1, 22, 97, 1, 33, 15, 1, 34, 101, 1, 35,
    103, 1, 36, 105, 1, 37, 107, 1, 38, 446, 1, 50, 263, 1, 51, 264, 1, 52, 265, 1, 53, 266, 1, 54,
    267, 1, 56, 268, 1, 57, 269, 1, 58, 270, 1, 59, 271, 1, 60, 272, 1, 61, 278, 1, 62, 627, 1, 63,
    3, 2, 1, 2],
   [25, 85, 1, 8, 215, 1, 11, 87, 1, 14, 89, 1, 17, 13, 1, 22, 97, 1, 33, 15, 1, 34, 101, 1, 35,
    103, 1, 36, 105, 1, 37, 107, 1, 38, 446, 1, 50, 263, 1, 51, 264, 1, 52, 265, 1, 53, 266, 1, 54,
    267, 1, 56, 268, 1, 57, 269, 1, 58, 270, 1, 59, 271, 1, 60, 272, 1, 61, 278, 1, 62, 628, 1, 63,
    3, 2, 1, 2],
   [25, 85, 1, 8, 217, 1, 11, 87, 1, 14, 89, 1, 17, 13, 1, 22, 97, 1, 33, 15, 1, 34, 101, 1, 35,
    103, 1, 36, 105, 1, 37, 107, 1, 38, 446, 1, 50, 263, 1, 51, 264, 1, 52, 265, 1, 53, 266, 1, 54,
    267, 1, 56, 268, 1, 57, 269, 1, 58, 270, 1, 59, 271, 1, 60, 272, 1, 61, 278, 1, 62, 629, 1, 63,
    3, 2, 1, 2],
   [25, 85, 1, 8, 219, 1, 11, 87, 1, 14, 89, 1, 17, 13, 1, 22, 97, 1, 33, 15, 1, 34, 101, 1, 35,
    103, 1, 36, 105, 1, 37, 107, 1, 38, 446, 1, 50, 263, 1, 51, 264, 1, 52, 265, 1, 53, 266, 1, 54,
    267, 1, 56, 268, 1, 57, 269, 1, 58, 270, 1, 59, 271, 1, 60, 272, 1, 61, 278, 1, 62, 630, 1, 63,
    3, 2, 1, 2],
   [25, 85, 1, 8, 221, 1, 11, 87, 1, 14, 89, 1, 17, 13, 1, 22, 97, 1, 33, 15, 1, 34, 101, 1, 35,
    103, 1, 36, 105, 1, 37, 107, 1, 38, 446, 1, 50, 263, 1, 51, 264, 1, 52, 265, 1, 53, 266, 1, 54,
    267, 1, 56, 268, 1, 57, 269, 1, 58, 270, 1, 59, 271, 1, 60, 272, 1, 61, 278, 1, 62, 631, 1, 63,
    3, 2, 1, 2],
   [25, 85, 1, 8, 223, 1, 11, 87, 1, 14, 89, 1, 17, 13, 1, 22, 97, 1, 33, 15, 1, 34, 101, 1, 35,
    103, 1, 36, 105, 1, 37, 107, 1, 38, 446, 1, 50, 263, 1, 51, 264, 1, 52, 265, 1, 53, 266, 1, 54,
    267, 1, 56, 268, 1, 57, 269, 1, 58, 270, 1, 59, 271, 1, 60, 272, 1, 61, 278, 1, 62, 632, 1, 63,
    3, 2, 1, 2],
   [25, 85, 1, 8, 225, 1, 11, 87, 1, 14, 89, 1, 17, 13, 1, 22, 97, 1, 33, 15, 1, 34, 101, 1, 35,
    103, 1, 36, 105, 1, 37, 107, 1, 38, 446, 1, 50, 263, 1, 51, 264, 1, 52, 265, 1, 53, 266, 1, 54,
    267, 1, 56, 268, 1, 57, 269, 1, 58, 270, 1, 59, 271, 1, 60, 272, 1, 61, 278, 1, 62, 633, 1, 63,
    3, 2, 1, 2],
   [23, 227, 1, 8, 229, 1, 14, 231, 1, 17, 233, 1, 22, 235, 1, 33, 237, 1, 34, 239, 1, 35, 241, 1,
    36, 243, 1, 37, 245, 1, 38, 30, 1, 50, 322, 1, 51, 323, 1, 52, 324, 1, 53, 325, 1, 54, 326, 1,
    56, 327, 1, 57, 328, 1, 58, 329, 1, 59, 330, 1, 60, 331, 1, 61, 337, 1, 62, 3, 2, 1, 2],
   [23, 85, 1, 8, 87, 1, 14, 89, 1, 17, 13, 1, 22, 97, 1, 33, 15, 1, 34, 101, 1, 35, 103, 1, 36,
    105, 1, 37, 107, 1, 38, 494, 1, 50, 263, 1, 51, 264, 1, 52, 265, 1, 53, 266, 1, 54, 267, 1, 56,
    268, 1, 57, 269, 1, 58, 270, 1, 59, 271, 1, 60, 272, 1, 61, 278, 1, 62, 3, 2, 1, 2],
   [23, 85, 1, 8, 87, 1, 14, 89, 1, 17, 13, 1, 22, 97, 1, 33, 15, 1, 34, 101, 1, 35, 103, 1, 36,
    105, 1, 37, 107, 1, 38, 495, 1, 50, 263, 1, 51, 264, 1, 52, 265, 1, 53, 266, 1, 54, 267, 1, 56,
    268, 1, 57, 269, 1, 58, 270, 1, 59, 271, 1, 60, 272, 1, 61, 278, 1, 62, 3, 2, 1, 2],
   [23, 85, 1, 8, 87, 1, 14, 89, 1, 17, 13, 1, 22, 97, 1, 33, 15, 1, 34, 101, 1, 35, 103, 1, 36,
    105, 1, 37, 107, 1, 38, 496, 1, 50, 263, 1, 51, 264, 1, 52, 265, 1, 53, 266, 1, 54, 267, 1, 56,
    268, 1, 57, 269, 1, 58, 270, 1, 59, 271, 1, 60, 272, 1, 61, 278, 1, 62, 3, 2, 1, 2],
   [23, 85, 1, 8, 87, 1, 14, 89, 1, 17, 13, 1, 22, 97, 1, 33, 15, 1, 34, 101, 1, 35, 103, 1, 36,
    105, 1, 37, 107, 1, 38, 497, 1, 50, 263, 1, 51, 264, 1, 52, 265, 1, 53, 266, 1, 54, 267, 1, 56,
    268, 1, 57, 269, 1, 58, 270, 1, 59, 271, 1, 60, 272, 1, 61, 278, 1, 62, 3, 2, 1, 2],
   [23, 85, 1, 8, 87, 1, 14, 89, 1, 17, 13, 1, 22, 97, 1, 33, 15, 1, 34, 101, 1, 35, 103, 1, 36,
    105, 1, 37, 107, 1, 38, 498, 1, 50, 263, 1, 51, 264, 1, 52, 265, 1, 53, 266, 1, 54, 267, 1, 56,
    268, 1, 57, 269, 1, 58, 270, 1, 59, 271, 1, 60, 272, 1, 61, 278, 1, 62, 3, 2, 1, 2]]

/-- The rows of the states from 66 to 193. -/
def rows1 : List (List Nat) :=
  [[23, 85, 1, 8, 87, 1, 14, 89, 1, 17, 13, 1, 22, 97, 1, 33, 15, 1, 34, 101, 1, 35, 103, 1, 36,
    105, 1, 37, 107, 1, 38, 499, 1, 50, 263, 1, 51, 264, 1, 52, 265, 1, 53, 266, 1, 54, 267, 1, 56,
    268, 1, 57, 269, 1, 58, 270, 1, 59, 271, 1, 60, 272, 1, 61, 278, 1, 62, 3, 2, 1, 2],
   [23, 85, 1, 8, 87, 1, 14, 89, 1, 17, 13, 1, 22, 97, 1, 33, 15, 1, 34, 101, 1, 35, 103, 1, 36,
    105, 1, 37, 107, 1, 38, 500, 1, 50, 263, 1, 51, 264, 1, 52, 265, 1, 53, 266, 1, 54, 267, 1, 56,
    268, 1, 57, 269, 1, 58, 270, 1, 59, 271, 1, 60, 272, 1, 61, 278, 1, 62, 3, 2, 1, 2],
   [23, 85, 1, 8, 87, 1, 14, 89, 1, 17, 13, 1, 22, 97, 1, 33, 15, 1, 34, 101, 1, 35, 103, 1, 36,
    105, 1, 37, 107, 1, 38, 501, 1, 50, 263, 1, 51, 264, 1, 52, 265, 1, 53, 266, 1, 54, 267, 1, 56,
    268, 1, 57, 269, 1, 58, 270, 1, 59, 271, 1, 60, 272, 1, 61, 278, 1, 62, 3, 2, 1, 2],
   [23, 85, 1, 8, 87, 1, 14, 89, 1, 17, 13, 1, 22, 97, 1, 33, 15, 1, 34, 101, 1, 35, 103, 1, 36,
    105, 1, 37, 107, 1, 38, 502, 1, 50, 263, 1, 51, 264, 1, 52, 265, 1, 53, 266, 1, 54, 267, 1, 56,
    268, 1, 57, 269, 1, 58, 270, 1, 59, 271, 1, 60, 272, 1, 61, 278, 1, 62, 3, 2, 1, 2],
   [23, 85, 1, 8, 87, 1, 14, 89, 1, 17, 13, 1, 22, 97, 1, 33, 15, 1, 34, 101, 1, 35, 103, 1, 36,
    105, 1, 37, 107, 1, 38, 432, 1, 50, 263, 1, 51, 264, 1, 52, 265, 1, 53, 266, 1, 54, 267, 1, 56,
    268, 1, 57, 269, 1, 58, 270, 1, 59, 271, 1, 60, 272, 1, 61, 278, 1, 62, 3, 2, 1, 2],
   [23, 85, 1, 8, 87, 1, 14, 89, 1, 17, 91, 1, 22, 97, 1, 33, 99, 1, 34, 101, 1, 35, 103, 1, 36,
    105, 1, 37, 107, 1, 38, 403, 1, 50, 263, 1, 51, 264, 1, 52, 265, 1, 53, 266, 1, 54, 267, 1, 56,
    268, 1, 57, 269, 1, 58, 270, 1, 59, 271, 1, 60, 272, 1, 61, 278, 1, 62, 3, 2, 1, 2],
   [23, 227, 1, 8, 229, 1, 14, 231, 1, 17, 233, 1, 22, 235, 1, 33, 237, 1, 34, 239, 1, 35, 241, 1,
    36, 243, 1, 37, 245, 1, 38, 340, 1, 50, 322, 1, 51, 323, 1, 52, 324, 1, 53, 325, 1, 54, 326, 1,
    56, 327, 1, 57, 328, 1, 58, 329, 1, 59, 330, 1, 60, 331, 1, 61, 337, 1, 62, 3, 2, 1, 2],
   [23, 247, 1, 8, 249, 1, 14, 251, 1, 17, 13, 1, 22, 253, 1, 33, 15, 1, 34, 255, 1, 35, 257, 1, 36,
    259, 1, 37, 261, 1, 38, 433, 1, 50, 416, 1, 51, 417, 1, 52, 418, 1, 53, 419, 1, 54, 420, 1, 56,
    421, 1, 57, 422, 1, 58, 423, 1, 59, 424, 1, 60, 425, 1, 61, 431, 1, 62, 3, 2, 1, 2],
   [23, 263, 1, 8, 265, 1, 14, 267, 1, 17, 269, 1, 22, 271, 1, 33, 273, 1, 34, 275, 1, 35, 277, 1,
    36, 279, 1, 37, 281, 1, 38, 477, 1, 50, 457, 1, 51, 458, 1, 52, 459, 1, 53, 460, 1, 54, 461, 1,
    56, 462, 1, 57, 463, 1, 58, 464, 1, 59, 465, 1, 60, 466, 1, 61, 472, 1, 62, 3, 2, 1, 2],
   [23, 21, 1, 8, 23, 1, 14, 25, 1, 17, 27, 1, 22, 35, 1, 33, 37, 1, 34, 39, 1, 35, 41, 1, 36, 43,
    1, 37, 45, 1, 38, 154, 1, 50, 134, 1, 51, 135, 1, 52, 136, 1, 53, 137, 1, 54, 138, 1, 56, 139,
    1, 57, 140, 1, 58, 141, 1, 59, 142, 1, 60, 143, 1, 61, 149, 1, 62, 3, 2, 1, 2],
   [23, 53, 1, 8, 55, 1, 14, 57, 1, 17, 59, 1, 22, 61, 1, 33, 63, 1, 34, 65, 1, 35, 67, 1, 36, 69,
    1, 37, 71, 1, 38, 185, 1, 50, 165, 1, 51, 166, 1, 52, 167, 1, 53, 168, 1, 54, 169, 1, 56, 170,
    1, 57, 171, 1, 58, 172, 1, 59, 173, 1, 60, 174, 1, 61, 180, 1, 62, 3, 2, 1, 2],
   [23, 111, 1, 8, 113, 1, 14, 115, 1, 17, 117, 1, 22, 123, 1, 33, 125, 1, 34, 127, 1, 35, 129, 1,
    36, 131, 1, 37, 133, 1, 38, 244, 1, 50, 205, 1, 51, 207, 1, 52, 209, 1, 53, 211, 1, 54, 213, 1,
    56, 215, 1, 57, 217, 1, 58, 219, 1, 59, 221, 1, 60, 223, 1, 61, 235, 1, 62, 3, 2, 1, 2],
   [23, 145, 1, 8, 147, 1, 14, 149, 1, 17, 151, 1, 22, 153, 1, 33, 155, 1, 34, 157, 1, 35, 159, 1,
    36, 161, 1, 37, 163, 1, 38, 308, 1, 50, 288, 1, 51, 289, 1, 52, 290, 1, 53, 291, 1, 54, 292, 1,
    56, 293, 1, 57, 294, 1, 58, 295, 1, 59, 296, 1, 60, 297, 1, 61, 303, 1, 62, 3, 2, 1, 2],
   [23, 283, 1, 8, 285, 1, 14, 287, 1, 17, 289, 1, 22, 291, 1, 33, 293, 1, 34, 295, 1, 35, 297, 1,
    36, 299, 1, 37, 301, 1, 38, 245, 1, 50, 206, 1, 51, 208, 1, 52, 210, 1, 53, 212, 1, 54, 214, 1,
    56, 216, 1, 57, 218, 1, 58, 220, 1, 59, 222, 1, 60, 224, 1, 61, 236, 1, 62, 3, 2, 1, 2],
   [23, 85, 1, 8, 87, 1, 14, 89, 1, 17, 13, 1, 22, 97, 1, 33, 15, 1, 34, 101, 1, 35, 103, 1, 36,
    105, 1, 37, 107, 1, 38, 434, 1, 50, 263, 1, 51, 264, 1, 52, 265, 1, 53, 266, 1, 54, 267, 1, 56,
    268, 1, 57, 269, 1, 58, 270, 1, 59, 271, 1, 60, 272, 1, 61, 278, 1, 62, 3, 2, 1, 2],
   [23, 85, 1, 8, 87, 1, 14, 89, 1, 17, 91, 1, 22, 97, 1, 33, 99, 1, 34, 101, 1, 35, 103, 1, 36,
    105, 1, 37, 107, 1, 38, 404, 1, 50, 263, 1, 51, 264, 1, 52, 265, 1, 53, 266, 1, 54, 267, 1, 56,
    268, 1, 57, 269, 1, 58, 270, 1, 59, 271, 1, 60, 272, 1, 61, 278, 1, 62, 3, 2, 1, 2],
   [23, 227, 1, 8, 229, 1, 14, 231, 1, 17, 233, 1, 22, 235, 1, 33, 237, 1, 34, 239, 1, 35, 241, 1,
    36, 243, 1, 37, 245, 1, 38, 341, 1, 50, 322, 1, 51, 323, 1, 52, 324, 1, 53, 325, 1, 54, 326, 1,
    56, 327, 1, 57, 328, 1, 58, 329, 1, 59, 330, 1, 60, 331, 1, 61, 337, 1, 62, 3, 2, 1, 2],
   [23, 247, 1, 8, 249, 1, 14, 251, 1, 17, 13, 1, 22, 253, 1, 33, 15, 1, 34, 255, 1, 35, 257, 1, 36,
    259, 1, 37, 261, 1, 38, 435, 1, 50, 416, 1, 51, 417, 1, 52, 418, 1, 53, 419, 1, 54, 420, 1, 56,
    421, 1, 57, 422, 1, 58, 423, 1, 59, 424, 1, 60, 425, 1, 61, 431, 1, 62, 3, 2, 1, 2],
   [23, 263, 1, 8, 265, 1, 14, 267, 1, 17, 269, 1, 22, 271, 1, 33, 273, 1, 34, 275, 1, 35, 277, 1,
    36, 279, 1, 37, 281, 1, 38, 478, 1, 50, 457, 1, 51, 458, 1, 52, 459, 1, 53, 460, 1, 54, 461, 1,
    56, 462, 1, 57, 463, 1, 58, 464, 1, 59, 465, 1, 60, 466, 1, 61, 472, 1, 62, 3, 2, 1, 2],
   [23, 21, 1, 8, 23, 1, 14, 25, 1, 17, 27, 1, 22, 35, 1, 33, 37, 1, 34, 39, 1, 35, 41, 1, 36, 43,
    1, 37, 45, 1, 38, 155, 1, 50, 134, 1, 51, 135, 1, 52, 136, 1, 53, 137, 1, 54, 138, 1, 56, 139,
    1, 57, 140, 1, 58, 141, 1, 59, 142, 1, 60, 143, 1, 61, 149, 1, 62, 3, 2, 1, 2],
   [23, 53, 1, 8, 55, 1, 14, 57, 1, 17, 59, 1, 22, 61, 1, 33, 63, 1, 34, 65, 1, 35, 67, 1, 36, 69,
    1, 37, 71, 1, 38, 186, 1, 50, 165, 1, 51, 166, 1, 52, 167, 1, 53, 168, 1, 54, 169, 1, 56, 170,
    1, 57, 171, 1, 58, 172, 1, 59, 173, 1, 60, 174, 1, 61, 180, 1, 62, 3, 2, 1, 2],
   [23, 111, 1, 8, 113, 1, 14, 115, 1, 17, 117, 1, 22, 123, 1, 33, 125, 1, 34, 127, 1, 35, 129, 1,
    36, 131, 1, 37, 133, 1, 38, 246, 1, 50, 205, 1, 51, 207, 1, 52, 209, 1, 53, 211, 1, 54, 213, 1,
    56, 215, 1, 57, 217, 1, 58, 219, 1, 59, 221, 1, 60, 223, 1, 61, 235, 1, 62, 3, 2, 1, 2],
   [23, 145, 1, 8, 147, 1, 14, 149, 1, 17, 151, 1, 22, 153, 1, 33, 155, 1, 34, 157, 1, 35, 159, 1,
    36, 161, 1, 37, 163, 1, 38, 309, 1, 50, 288, 1, 51, 289, 1, 52, 290, 1, 53, 291, 1, 54, 292, 1,
    56, 293, 1, 57, 294, 1, 58, 295, 1, 59, 296, 1, 60, 297, 1, 61, 303, 1, 62, 3, 2, 1, 2],
   [23, 283, 1, 8, 285, 1, 14, 287, 1, 17, 289, 1, 22, 291, 1, 33, 293, 1, 34, 295, 1, 35, 297, 1,
    36, 299, 1, 37, 301, 1, 38, 247, 1, 50, 206, 1, 51, 208, 1, 52, 210, 1, 53, 212, 1, 54, 214, 1,
    56, 216, 1, 57, 218, 1, 58, 220, 1, 59, 222, 1, 60, 224, 1, 61, 236, 1, 62, 3, 2, 1, 2],
   [23, 85, 1, 8, 87, 1, 14, 89, 1, 17, 13, 1, 22, 97, 1, 33, 15, 1, 34, 101, 1, 35, 103, 1, 36,
    105, 1, 37, 107, 1, 38, 436, 1, 50, 263, 1, 51, 264, 1, 52, 265, 1, 53, 266, 1, 54, 267, 1, 56,
    268, 1, 57, 269, 1, 58, 270, 1, 59, 271, 1, 60, 272, 1, 61, 278, 1, 62, 3, 2, 1, 2],
   [23, 85, 1, 8, 87, 1, 14, 89, 1, 17, 91, 1, 22, 97, 1, 33, 99, 1, 34, 101, 1, 35, 103, 1, 36,
    105, 1, 37, 107, 1, 38, 405, 1, 50, 263, 1, 51, 264, 1, 52, 265, 1, 53, 266, 1, 54, 267, 1, 56,
    268, 1, 57, 269, 1, 58, 270, 1, 59, 271, 1, 60, 272, 1, 61, 278, 1, 62, 3, 2, 1, 2],
   [23, 227, 1, 8, 229, 1, 14, 231, 1, 17, 233, 1, 22, 235, 1, 33, 237, 1, 34, 239, 1, 35, 241, 1,
    36, 243, 1, 37, 245, 1, 38, 342, 1, 50, 322, 1, 51, 323, 1, 52, 324, 1, 53, 325, 1, 54, 326, 1,
    56, 327, 1, 57, 328, 1, 58, 329, 1, 59, 330, 1, 60, 331, 1, 61, 337, 1, 62, 3, 2, 1, 2],
   [23, 247, 1, 8, 249, 1, 14, 251, 1, 17, 13, 1, 22, 253, 1, 33, 15, 1, 34, 255, 1, 35, 257, 1, 36,
    259, 1, 37, 261, 1, 38, 437, 1, 50, 416, 1, 51, 417, 1, 52, 418, 1, 53, 419, 1, 54, 420, 1, 56,
    421, 1, 57, 422, 1, 58, 423, 1, 59, 424, 1, 60, 425, 1, 61, 431, 1, 62, 3, 2, 1, 2],
   [23, 263, 1, 8, 265, 1, 14, 267, 1, 17, 269, 1, 22, 271, 1, 33, 273, 1, 34, 275, 1, 35, 277, 1,
    36, 279, 1, 37, 281, 1, 38, 479, 1, 50, 457, 1, 51, 458, 1, 52, 459, 1, 53, 460, 1, 54, 461, 1,
    56, 462, 1, 57, 463, 1, 58, 464, 1, 59, 465, 1, 60, 466, 1, 61, 472, 1, 62, 3, 2, 1, 2],
   [23, 21, 1, 8, 23, 1, 14, 25, 1, 17, 27, 1, 22, 35, 1, 33, 37, 1, 34, 39, 1, 35, 41, 1, 36, 43,
    1, 37, 45, 1, 38, 156, 1, 50, 134, 1, 51, 135, 1, 52, 136, 1, 53, 137, 1, 54, 138, 1, 56, 139,
    1, 57, 140, 1, 58, 141, 1, 59, 142, 1, 60, 143, 1, 61, 149, 1, 62, 3, 2, 1, 2],
   [23, 53, 1, 8, 55, 1, 14, 57, 1, 17, 59, 1, 22, 61, 1, 33, 63, 1, 34, 65, 1, 35, 67, 1, 36, 69,
    1, 37, 71, 1, 38, 187, 1, 50, 165, 1, 51, 166, 1, 52, 167, 1, 53, 168, 1, 54, 169, 1, 56, 170,
    1, 57, 171, 1, 58, 172, 1, 59, 173, 1, 60, 174, 1, 61, 180, 1, 62, 3, 2, 1, 2],
   [23, 111, 1, 8, 113, 1, 14, 115, 1, 17, 117, 1, 22, 123, 1, 33, 125, 1, 34, 127, 1, 35, 129, 1,
    36, 131, 1, 37, 133, 1, 38, 248, 1, 50, 205, 1, 51, 207, 1, 52, 209, 1, 53, 211, 1, 54, 213, 1,
    56, 215, 1, 57, 217, 1, 58, 219, 1, 59, 221, 1, 60, 223, 1, 61, 235, 1, 62, 3, 2, 1, 2],
   [23, 145, 1, 8, 147, 1, 14, 149, 1, 17, 151, 1, 22, 153, 1, 33, 155, 1, 34, 157, 1, 35, 159, 1,
    36, 161, 1, 37, 163, 1, 38, 310, 1, 50, 288, 1, 51, 289, 1, 52, 290, 1, 53, 291, 1, 54, 292, 1,
    56, 293, 1, 57, 294, 1, 58, 295, 1, 59, 296, 1, 60, 297, 1, 61, 303, 1, 62, 3, 2, 1, 2],
   [23, 283, 1, 8, 285, 1, 14, 287, 1, 17, 289, 1, 22, 291, 1, 33, 293, 1, 34, 295, 1, 35, 297, 1,
    36, 299, 1, 37, 301, 1, 38, 249, 1, 50, 206, 1, 51, 208, 1, 52, 210, 1, 53, 212, 1, 54, 214, 1,
    56, 216, 1, 57, 218, 1, 58, 220, 1, 59, 222, 1, 60, 224, 1, 61, 236, 1, 62, 3, 2, 1, 2],
   [23, 227, 1, 8, 229, 1, 14, 231, 1, 17, 233, 1, 22, 235, 1, 33, 237, 1, 34, 239, 1, 35, 241, 1,
    36, 243, 1, 37, 245, 1, 38, 31, 1, 50, 322, 1, 51, 323, 1, 52, 324, 1, 53, 325, 1, 54, 326, 1,
    56, 327, 1, 57, 328, 1, 58, 329, 1, 59, 330, 1, 60, 331, 1, 61, 337, 1, 62, 3, 2, 1, 2],
   [23, 227, 1, 8, 229, 1, 14, 231, 1, 17, 233, 1, 22, 235, 1, 33, 237, 1, 34, 239, 1, 35, 241, 1,
    36, 243, 1, 37, 245, 1, 38, 32, 1, 50, 322, 1, 51, 323, 1, 52, 324, 1, 53, 325, 1, 54, 326, 1,
    56, 327, 1, 57, 328, 1, 58, 329, 1, 59, 330, 1, 60, 331, 1, 61, 337, 1, 62, 3, 2, 1, 2],
   [23, 227, 1, 8, 229, 1, 14, 231, 1, 17, 233, 1, 22, 235, 1, 33, 237, 1, 34, 239, 1, 35, 241, 1,
    36, 243, 1, 37, 245, 1, 38, 33, 1, 50, 322, 1, 51, 323, 1, 52, 324, 1, 53, 325, 1, 54, 326, 1,
    56, 327, 1, 57, 328, 1, 58, 329, 1, 59, 330, 1, 60, 331, 1, 61, 337, 1, 62, 3, 2, 1, 2],
   [23, 227, 1, 8, 229, 1, 14, 231, 1, 17, 233, 1, 22, 235, 1, 33, 237, 1, 34, 239, 1, 35, 241, 1,
    36, 243, 1, 37, 245, 1, 38, 34, 1, 50, 322, 1, 51, 323, 1, 52, 324, 1, 53, 325, 1, 54, 326, 1,
    56, 327, 1, 57, 328, 1, 58, 329, 1, 59, 330, 1, 60, 331, 1, 61, 337, 1, 62, 3, 2, 1, 2],
   [23, 227, 1, 8, 229, 1, 14, 231, 1, 17, 233, 1, 22, 235, 1, 33, 237, 1, 34, 239, 1, 35, 241, 1,
    36, 243, 1, 37, 245, 1, 38, 35, 1, 50, 322, 1, 51, 323, 1, 52, 324, 1, 53, 325, 1, 54, 326, 1,
    56, 327, 1, 57, 328, 1, 58, 329, 1, 59, 330, 1, 60, 331, 1, 61, 337, 1, 62, 3, 2, 1, 2],
   [23, 227, 1, 8, 229, 1, 14, 231, 1, 17, 233, 1, 22, 235, 1, 33, 237, 1, 34, 239, 1, 35, 241, 1,
    36, 243, 1, 37, 245, 1, 38, 36, 1, 50, 322, 1, 51, 323, 1, 52, 324, 1, 53, 325, 1, 54, 326, 1,
    56, 327, 1, 57, 328, 1, 58, 329, 1, 59, 330, 1, 60, 331, 1, 61, 337, 1, 62, 3, 2, 1, 2],
   [23, 227, 1, 8, 229, 1, 14, 231, 1, 17, 233, 1, 22, 235, 1, 33, 237, 1, 34, 239, 1, 35, 241, 1,
    36, 243, 1, 37, 245, 1, 38, 37, 1, 50, 322, 1, 51, 323, 1, 52, 324, 1, 53, 325, 1, 54, 326, 1,
    56, 327, 1, 57, 328, 1, 58, 329, 1, 59, 330, 1, 60, 331, 1, 61, 337, 1, 62, 3, 2, 1, 2],
   [23, 227, 1, 8, 229, 1, 14, 231, 1, 17, 233, 1, 22, 235, 1, 33, 237, 1, 34, 239, 1, 35, 241, 1,
    36, 243, 1, 37, 245, 1, 38, 38, 1, 50, 322, 1, 51, 323, 1, 52, 324, 1, 53, 325, 1, 54, 326, 1,
    56, 327, 1, 57, 328, 1, 58, 329, 1, 59, 330, 1, 60, 331, 1, 61, 337, 1, 62, 3, 2, 1, 2],
   [23, 227, 1, 8, 229, 1, 14, 231, 1, 17, 233, 1, 22, 235, 1, 33, 237, 1, 34, 239, 1, 35, 241, 1,
    36, 243, 1, 37, 245, 1, 38, 39, 1, 50, 322, 1, 51, 323, 1, 52, 324, 1, 53, 325, 1, 54, 326, 1,
    56, 327, 1, 57, 328, 1, 58, 329, 1, 59, 330, 1, 60, 331, 1, 61, 337, 1, 62, 3, 2, 1, 2],
   [5, 307, 1, 18, 130, 1, 88, 179, 2, 1, 2, 303, 10, 4, 5, 8, 14, 17, 19, 32, 33, 36, 38, 305, 10,
    13, 20, 21, 22, 24, 28, 29, 34, 35, 37],
   [23, 247, 1, 8, 249, 1, 14, 251, 1, 17, 13, 1, 22, 253, 1, 33, 15, 1, 34, 255, 1, 35, 257, 1, 36,
    259, 1, 37, 261, 1, 38, 439, 1, 50, 416, 1, 51, 417, 1, 52, 418, 1, 53, 419, 1, 54, 420, 1, 56,
    421, 1, 57, 422, 1, 58, 423, 1, 59, 424, 1, 60, 425, 1, 61, 431, 1, 62, 3, 2, 1, 2],
   [23, 85, 1, 8, 87, 1, 14, 89, 1, 17, 13, 1, 22, 97, 1, 33, 15, 1, 34, 101, 1, 35, 103, 1, 36,
    105, 1, 37, 107, 1, 38, 484, 1, 50, 263, 1, 51, 264, 1, 52, 265, 1, 53, 266, 1, 54, 267, 1, 56,
    268, 1, 57, 269, 1, 58, 270, 1, 59, 271, 1, 60, 272, 1, 61, 278, 1, 62, 3, 2, 1, 2],
   [23, 263, 1, 8, 265, 1, 14, 267, 1, 17, 269, 1, 22, 271, 1, 33, 273, 1, 34, 275, 1, 35, 277, 1,
    36, 279, 1, 37, 281, 1, 38, 485, 1, 50, 457, 1, 51, 458, 1, 52, 459, 1, 53, 460, 1, 54, 461, 1,
    56, 462, 1, 57, 463, 1, 58, 464, 1, 59, 465, 1, 60, 466, 1, 61, 472, 1, 62, 3, 2, 1, 2],
   [23, 85, 1, 8, 87, 1, 14, 89, 1, 17, 13, 1, 22, 97, 1, 33, 15, 1, 34, 101, 1, 35, 103, 1, 36,
    105, 1, 37, 107, 1, 38, 486, 1, 50, 263, 1, 51, 264, 1, 52, 265, 1, 53, 266, 1, 54, 267, 1, 56,
    268, 1, 57, 269, 1, 58, 270, 1, 59, 271, 1, 60, 272, 1, 61, 278, 1, 62, 3, 2, 1, 2],
   [23, 85, 1, 8, 87, 1, 14, 89, 1, 17, 91, 1, 22, 97, 1, 33, 99, 1, 34, 101, 1, 35, 103, 1, 36,
    105, 1, 37, 107, 1, 38, 513, 1, 50, 263, 1, 51, 264, 1, 52, 265, 1, 53, 266, 1, 54, 267, 1, 56,
    268, 1, 57, 269, 1, 58, 270, 1, 59, 271, 1, 60, 272, 1, 61, 278, 1, 62, 3, 2, 1, 2],
   [23, 85, 1, 8, 87, 1, 14, 89, 1, 17, 91, 1, 22, 97, 1, 33, 99, 1, 34, 101, 1, 35, 103, 1, 36,
    105, 1, 37, 107, 1, 38, 514, 1, 50, 263, 1, 51, 264, 1, 52, 265, 1, 53, 266, 1, 54, 267, 1, 56,
    268, 1, 57, 269, 1, 58, 270, 1, 59, 271, 1, 60, 272, 1, 61, 278, 1, 62, 3, 2, 1, 2],
   [23, 85, 1, 8, 87, 1, 14, 89, 1, 17, 91, 1, 22, 97, 1, 33, 99, 1, 34, 101, 1, 35, 103, 1, 36,
    105, 1, 37, 107, 1, 38, 515, 1, 50, 263, 1, 51, 264, 1, 52, 265, 1, 53, 266, 1, 54, 267, 1, 56,
    268, 1, 57, 269, 1, 58, 270, 1, 59, 271, 1, 60, 272, 1, 61, 278, 1, 62, 3, 2, 1, 2],
   [23, 85, 1, 8, 87, 1, 14, 89, 1, 17, 91, 1, 22, 97, 1, 33, 99, 1, 34, 101, 1, 35, 103, 1, 36,
    105, 1, 37, 107, 1, 38, 487, 1, 50, 263, 1, 51, 264, 1, 52, 265, 1, 53, 266, 1, 54, 267, 1, 56,
    268, 1, 57, 269, 1, 58, 270, 1, 59, 271, 1, 60, 272, 1, 61, 278, 1, 62, 3, 2, 1, 2],
   [23, 53, 1, 8, 55, 1, 14, 57, 1, 17, 59, 1, 22, 61, 1, 33, 63, 1, 34, 65, 1, 35, 67, 1, 36, 69,
    1, 37, 71, 1, 38, 204, 1, 50, 165, 1, 51, 166, 1, 52, 167, 1, 53, 168, 1, 54, 169, 1, 56, 170,
    1, 57, 171, 1, 58, 172, 1, 59, 173, 1, 60, 174, 1, 61, 180, 1, 62, 3, 2, 1, 2],
   [23, 111, 1, 8, 113, 1, 14, 115, 1, 17, 117, 1, 22, 123, 1, 33, 125, 1, 34, 127, 1, 35, 129, 1,
    36, 131, 1, 37, 133, 1, 38, 287, 1, 50, 205, 1, 51, 207, 1, 52, 209, 1, 53, 211, 1, 54, 213, 1,
    56, 215, 1, 57, 217, 1, 58, 219, 1, 59, 221, 1, 60, 223, 1, 61, 235, 1, 62, 3, 2, 1, 2],
   [23, 85, 1, 8, 87, 1, 14, 89, 1, 17, 91, 1, 22, 97, 1, 33, 99, 1, 34, 101, 1, 35, 103, 1, 36,
    105, 1, 37, 107, 1, 38, 443, 1, 50, 263, 1, 51, 264, 1, 52, 265, 1, 53, 266, 1, 54, 267, 1, 56,
    268, 1, 57, 269, 1, 58, 270, 1, 59, 271, 1, 60, 272, 1, 61, 278, 1, 62, 3, 2, 1, 2],
   [23, 85, 1, 8, 87, 1, 14, 89, 1, 17, 91, 1, 22, 97, 1, 33, 99, 1, 34, 101, 1, 35, 103, 1, 36,
    105, 1, 37, 107, 1, 38, 525, 1, 50, 263, 1, 51, 264, 1, 52, 265, 1, 53, 266, 1, 54, 267, 1, 56,
    268, 1, 57, 269, 1, 58, 270, 1, 59, 271, 1, 60, 272, 1, 61, 278, 1, 62, 3, 2, 1, 2],
   [23, 283, 1, 8, 285, 1, 14, 287, 1, 17, 289, 1, 22, 291, 1, 33, 293, 1, 34, 295, 1, 35, 297, 1,
    36, 299, 1, 37, 301, 1, 38, 261, 1, 50, 206, 1, 51, 208, 1, 52, 210, 1, 53, 212, 1, 54, 214, 1,
    56, 216, 1, 57, 218, 1, 58, 220, 1, 59, 222, 1, 60, 224, 1, 61, 236, 1, 62, 3, 2, 1, 2],
   [23, 145, 1, 8, 147, 1, 14, 149, 1, 17, 151, 1, 22, 153, 1, 33, 155, 1, 34, 157, 1, 35, 159, 1,
    36, 161, 1, 37, 163, 1, 38, 320, 1, 50, 288, 1, 51, 289, 1, 52, 290, 1, 53, 291, 1, 54, 292, 1,
    56, 293, 1, 57, 294, 1, 58, 295, 1, 59, 296, 1, 60, 297, 1, 61, 303, 1, 62, 3, 2, 1, 2],
   [23, 85, 1, 8, 87, 1, 14, 89, 1, 17, 91, 1, 22, 97, 1, 33, 99, 1, 34, 101, 1, 35, 103, 1, 36,
    105, 1, 37, 107, 1, 38, 528, 1, 50, 263, 1, 51, 264, 1, 52, 265, 1, 53, 266, 1, 54, 267, 1, 56,
    268, 1, 57, 269, 1, 58, 270, 1, 59, 271, 1, 60, 272, 1, 61, 278, 1, 62, 3, 2, 1, 2],
   [23, 283, 1, 8, 285, 1, 14, 287, 1, 17, 289, 1, 22, 291, 1, 33, 293, 1, 34, 295, 1, 35, 297, 1,
    36, 299, 1, 37, 301, 1, 38, 262, 1, 50, 206, 1, 51, 208, 1, 52, 210, 1, 53, 212, 1, 54, 214, 1,
    56, 216, 1, 57, 218, 1, 58, 220, 1, 59, 222, 1, 60, 224, 1, 61, 236, 1, 62, 3, 2, 1, 2],
   [23, 145, 1, 8, 147, 1, 14, 149, 1, 17, 151, 1, 22, 153, 1, 33, 155, 1, 34, 157, 1, 35, 159, 1,
    36, 161, 1, 37, 163, 1, 38, 321, 1, 50, 288, 1, 51, 289, 1, 52, 290, 1, 53, 291, 1, 54, 292, 1,
    56, 293, 1, 57, 294, 1, 58, 295, 1, 59, 296, 1, 60, 297, 1, 61, 303, 1, 62, 3, 2, 1, 2],
   [5, 309, 1, 18, 157, 1, 88, 179, 2, 1, 2, 305, 9, 20, 21, 22, 24, 28, 29, 34, 35, 37, 303, 10, 4,
    5, 8, 14, 17, 19, 32, 33, 36, 38],
   [3, 179, 2, 1, 2, 313, 10, 13, 20, 21, 22, 24, 28, 29, 34, 35, 37, 311, 11, 4, 5, 8, 14, 17, 18,
    19, 32, 33, 36, 38],
   [3, 179, 2, 1, 2, 317, 10, 13, 20, 21, 22, 24, 28, 29, 34, 35, 37, 315, 11, 4, 5, 8, 14, 17, 18,
    19, 32, 33, 36, 38],
   [4, 323, 1, 18, 179, 2, 1, 2, 319, 10, 4, 5, 8, 14, 17, 19, 32, 33, 36, 38, 321, 10, 13, 20, 21,
    22, 24, 28, 29, 34, 35, 37],
   [3, 179, 2, 1, 2, 327, 10, 13, 20, 21, 22, 24, 28, 29, 34, 35, 37, 325, 11, 4, 5, 8, 14, 17, 18,
    19, 32, 33, 36, 38],
   [3, 179, 2, 1, 2, 331, 10, 13, 20, 21, 22, 24, 28, 29, 34, 35, 37, 329, 11, 4, 5, 8, 14, 17, 18,
    19, 32, 33, 36, 38],
   [10, 335, 1, 13, 337, 1, 19, 339, 1, 20, 341, 1, 21, 345, 1, 24, 347, 1, 32, 318, 1, 85, 179, 2,
    1, 2, 343, 6, 22, 28, 29, 34, 35, 37, 333, 8, 4, 5, 8, 14, 17, 33, 36, 38],
   [3, 179, 2, 1, 2, 349, 10, 4, 5, 8, 14, 17, 19, 32, 33, 36, 38, 351, 10, 13, 20, 21, 22, 24, 28,
    29, 34, 35, 37],
   [3, 179, 2, 1, 2, 349, 10, 4, 5, 8, 14, 17, 19, 32, 33, 36, 38, 351, 10, 13, 20, 21, 22, 24, 28,
    29, 34, 35, 37],
   [3, 179, 2, 1, 2, 349, 10, 4, 5, 8, 14, 17, 19, 32, 33, 36, 38, 351, 10, 13, 20, 21, 22, 24, 28,
    29, 34, 35, 37],
   [3, 179, 2, 1, 2, 349, 10, 4, 5, 8, 14, 17, 19, 32, 33, 36, 38, 351, 10, 13, 20, 21, 22, 24, 28,
    29, 34, 35, 37],
   [3, 179, 2, 1, 2, 349, 10, 4, 5, 8, 14, 17, 19, 32, 33, 36, 38, 351, 10, 13, 20, 21, 22, 24, 28,
    29, 34, 35, 37],
   [3, 179, 2, 1, 2, 349, 10, 4, 5, 8, 14, 17, 19, 32, 33, 36, 38, 351, 10, 13, 20, 21, 22, 24, 28,
    29, 34, 35, 37],
   [3, 179, 2, 1, 2, 349, 10, 4, 5, 8, 14, 17, 19, 32, 33, 36, 38, 351, 10, 13, 20, 21, 22, 24, 28,
    29, 34, 35, 37],
   [3, 179, 2, 1, 2, 349, 10, 4, 5, 8, 14, 17, 19, 32, 33, 36, 38, 351, 10, 13, 20, 21, 22, 24, 28,
    29, 34, 35, 37],
   [3, 179, 2, 1, 2, 349, 10, 4, 5, 8, 14, 17, 19, 32, 33, 36, 38, 351, 10, 13, 20, 21, 22, 24, 28,
    29, 34, 35, 37],
   [3, 179, 2, 1, 2, 349, 10, 4, 5, 8, 14, 17, 19, 32, 33, 36, 38, 351, 10, 13, 20, 21, 22, 24, 28,
    29, 34, 35, 37],
   [3, 179, 2, 1, 2, 353, 10, 4, 5, 8, 14, 17, 19, 32, 33, 36, 38, 355, 10, 13, 20, 21, 22, 24, 28,
    29, 34, 35, 37],
   [3, 179, 2, 1, 2, 357, 10, 4, 5, 8, 14, 17, 19, 32, 33, 36, 38, 359, 10, 13, 20, 21, 22, 24, 28,
    29, 34, 35, 37],
   [3, 179, 2, 1, 2, 361, 10, 4, 5, 8, 14, 17, 19, 32, 33, 36, 38, 363, 10, 13, 20, 21, 22, 24, 28,
    29, 34, 35, 37],
   [3, 179, 2, 1, 2, 365, 10, 4, 5, 8, 14, 17, 19, 32, 33, 36, 38, 367, 10, 13, 20, 21, 22, 24, 28,
    29, 34, 35, 37],
   [3, 179, 2, 1, 2, 369, 10, 4, 5, 8, 14, 17, 19, 32, 33, 36, 38, 371, 10, 13, 20, 21, 22, 24, 28,
    29, 34, 35, 37],
   [3, 179, 2, 1, 2, 373, 10, 4, 5, 8, 14, 17, 19, 32, 33, 36, 38, 375, 10, 13, 20, 21, 22, 24, 28,
    29, 34, 35, 37],
   [3, 179, 2, 1, 2, 313, 9, 20, 21, 22, 24, 28, 29, 34, 35, 37, 311, 11, 4, 5, 8, 14, 17, 18, 19,
    32, 33, 36, 38],
   [3, 179, 2, 1, 2, 317, 9, 20, 21, 22, 24, 28, 29, 34, 35, 37, 315, 11, 4, 5, 8, 14, 17, 18, 19,
    32, 33, 36, 38],
   [3, 179, 2, 1, 2, 377, 10, 4, 5, 8, 14, 17, 19, 32, 33, 36, 38, 379, 10, 13, 20, 21, 22, 24, 28,
    29, 34, 35, 37],
   [3, 179, 2, 1, 2, 377, 10, 4, 5, 8, 14, 17, 19, 32, 33, 36, 38, 379, 10, 13, 20, 21, 22, 24, 28,
    29, 34, 35, 37],
   [4, 341, 1, 21, 179, 2, 1, 2, 383, 9, 13, 20, 22, 24, 28, 29, 34, 35, 37, 381, 10, 4, 5, 8, 14,
    17, 19, 32, 33, 36, 38],
   [4, 341, 1, 21, 179, 2, 1, 2, 383, 9, 13, 20, 22, 24, 28, 29, 34, 35, 37, 381, 10, 4, 5, 8, 14,
    17, 19, 32, 33, 36, 38],
   [3, 179, 2, 1, 2, 381, 10, 4, 5, 8, 14, 17, 19, 32, 33, 36, 38, 383, 10, 13, 20, 21, 22, 24, 28,
    29, 34, 35, 37],
   [4, 385, 1, 18, 179, 2, 1, 2, 321, 9, 20, 21, 22, 24, 28, 29, 34, 35, 37, 319, 10, 4, 5, 8, 14,
    17, 19, 32, 33, 36, 38],
   [3, 179, 2, 1, 2, 387, 10, 4, 5, 8, 14, 17, 19, 32, 33, 36, 38, 389, 10, 13, 20, 21, 22, 24, 28,
    29, 34, 35, 37],
   [3, 179, 2, 1, 2, 391, 10, 4, 5, 8, 14, 17, 19, 32, 33, 36, 38, 393, 10, 13, 20, 21, 22, 24, 28,
    29, 34, 35, 37],
   [3, 179, 2, 1, 2, 391, 10, 4, 5, 8, 14, 17, 19, 32, 33, 36, 38, 393, 10, 13, 20, 21, 22, 24, 28,
    29, 34, 35, 37],
   [3, 179, 2, 1, 2, 395, 10, 4, 5, 8, 14, 17, 19, 32, 33, 36, 38, 397, 10, 13, 20, 21, 22, 24, 28,
    29, 34, 35, 37],
   [3, 179, 2, 1, 2, 327, 9, 20, 21, 22, 24, 28, 29, 34, 35, 37, 325, 11, 4, 5, 8, 14, 17, 18, 19,
    32, 33, 36, 38],
   [9, 399, 1, 19, 401, 1, 20, 403, 1, 21, 345, 1, 24, 347, 1, 32, 318, 1, 85, 179, 2, 1, 2, 343, 6,
    22, 28, 29, 34, 35, 37, 333, 8, 4, 5, 8, 14, 17, 33, 36, 38],
   [3, 179, 2, 1, 2, 331, 9, 20, 21, 22, 24, 28, 29, 34, 35, 37, 329, 11, 4, 5, 8, 14, 17, 18, 19,
    32, 33, 36, 38],
   [3, 179, 2, 1, 2, 351, 9, 20, 21, 22, 24, 28, 29, 34, 35, 37, 349, 10, 4, 5, 8, 14, 17, 19, 32,
    33, 36, 38],
   [3, 179, 2, 1, 2, 351, 9, 20, 21, 22, 24, 28, 29, 34, 35, 37, 349, 10, 4, 5, 8, 14, 17, 19, 32,
    33, 36, 38],
   [3, 179, 2, 1, 2, 351, 9, 20, 21, 22, 24, 28, 29, 34, 35, 37, 349, 10, 4, 5, 8, 14, 17, 19, 32,
    33, 36, 38],
   [3, 179, 2, 1, 2, 351, 9, 20, 21, 22, 24, 28, 29, 34, 35, 37, 349, 10, 4, 5, 8, 14, 17, 19, 32,
    33, 36, 38],
   [3, 179, 2, 1, 2, 351, 9, 20, 21, 22, 24, 28, 29, 34, 35, 37, 349, 10, 4, 5, 8, 14, 17, 19, 32,
    33, 36, 38],
   [3, 179, 2, 1, 2, 351, 9, 20, 21, 22, 24, 28, 29, 34, 35, 37, 349, 10, 4, 5, 8, 14, 17, 19, 32,
    33, 36, 38],
   [3, 179, 2, 1, 2, 351, 9, 20, 21, 22, 24, 28, 29, 34, 35, 37, 349, 10, 4, 5, 8, 14, 17, 19, 32,
    33, 36, 38],
   [3, 179, 2, 1, 2, 351, 9, 20, 21, 22, 24, 28, 29, 34, 35, 37, 349, 10, 4, 5, 8, 14, 17, 19, 32,
    33, 36, 38],
   [3, 179, 2, 1, 2, 351, 9, 20, 21, 22, 24, 28, 29, 34, 35, 37, 349, 10, 4, 5, 8, 14, 17, 19, 32,
    33, 36, 38],
   [3, 179, 2, 1, 2, 351, 9, 20, 21, 22, 24, 28, 29, 34, 35, 37, 349, 10, 4, 5, 8, 14, 17, 19, 32,
    33, 36, 38],
   [3, 179, 2, 1, 2, 355, 9, 20, 21, 22, 24, 28, 29, 34, 35, 37, 353, 10, 4, 5, 8, 14, 17, 19, 32,
    33, 36, 38],
   [3, 179, 2, 1, 2, 359, 9, 20, 21, 22, 24, 28, 29, 34, 35, 37, 357, 10, 4, 5, 8, 14, 17, 19, 32,
    33, 36, 38],
   [3, 179, 2, 1, 2, 363, 9, 20, 21, 22, 24, 28, 29, 34, 35, 37, 361, 10, 4, 5, 8, 14, 17, 19, 32,
    33, 36, 38],
   [3, 179, 2, 1, 2, 367, 9, 20, 21, 22, 24, 28, 29, 34, 35, 37, 365, 10, 4, 5, 8, 14, 17, 19, 32,
    33, 36, 38],
   [3, 179, 2, 1, 2, 371, 9, 20, 21, 22, 24, 28, 29, 34, 35, 37, 369, 10, 4, 5, 8, 14, 17, 19, 32,
    33, 36, 38],
   [3, 179, 2, 1, 2, 375, 9, 20, 21, 22, 24, 28, 29, 34, 35, 37, 373, 10, 4, 5, 8, 14, 17, 19, 32,
    33, 36, 38],
   [5, 405, 1, 18, 197, 1, 88, 179, 2, 1, 2, 305, 8, 20, 21, 22, 24, 30, 34, 35, 37, 303, 9, 5, 8,
    14, 17, 19, 32, 33, 36, 38],
   [5, 407, 1, 18, 198, 1, 88, 179, 2, 1, 2, 305, 8, 20, 21, 22, 28, 29, 34, 35, 37, 303, 9, 4, 5,
    8, 14, 17, 19, 33, 36, 38],
   [3, 179, 2, 1, 2, 379, 9, 20, 21, 22, 24, 28, 29, 34, 35, 37, 377, 10, 4, 5, 8, 14, 17, 19, 32,
    33, 36, 38],
   [3, 179, 2, 1, 2, 379, 9, 20, 21, 22, 24, 28, 29, 34, 35, 37, 377, 10, 4, 5, 8, 14, 17, 19, 32,
    33, 36, 38],
   [4, 403, 1, 21, 179, 2, 1, 2, 383, 8, 20, 22, 24, 28, 29, 34, 35, 37, 381, 10, 4, 5, 8, 14, 17,
    19, 32, 33, 36, 38],
   [4, 403, 1, 21, 179, 2, 1, 2, 383, 8, 20, 22, 24, 28, 29, 34, 35, 37, 381, 10, 4, 5, 8, 14, 17,
    19, 32, 33, 36, 38],
   [3, 179, 2, 1, 2, 383, 9, 20, 21, 22, 24, 28, 29, 34, 35, 37, 381, 10, 4, 5, 8, 14, 17, 19, 32,
    33, 36, 38],
   [3, 179, 2, 1, 2, 389, 9, 20, 21, 22, 24, 28, 29, 34, 35, 37, 387, 10, 4, 5, 8, 14, 17, 19, 32,
    33, 36, 38],
   [3, 179, 2, 1, 2, 393, 9, 20, 21, 22, 24, 28, 29, 34, 35, 37, 391, 10, 4, 5, 8, 14, 17, 19, 32,
    33, 36, 38],
   [3, 179, 2, 1, 2, 393, 9, 20, 21, 22, 24, 28, 29, 34, 35, 37, 391, 10, 4, 5, 8, 14, 17, 19, 32,
    33, 36, 38],
   [3, 179, 2, 1, 2, 397, 9, 20, 21, 22, 24, 28, 29, 34, 35, 37, 395, 10, 4, 5, 8, 14, 17, 19, 32,
    33, 36, 38],
   [5, 409, 1, 18, 305, 1, 21, 250, 1, 88, 179, 2, 1, 2, 303, 15, 5, 8, 10, 11, 13, 16, 19, 20, 23,
    24, 27, 29, 30, 31, 32],
   [3, 179, 2, 1, 2, 313, 8, 20, 21, 22, 24, 30, 34, 35, 37, 311, 10, 5, 8, 14, 17, 18, 19, 32, 33,
    36, 38]]

/-- The rows of the states from 194 to 449. -/
def rows2 : List (List Nat) :=
  [[3, 179, 2, 1, 2, 313, 8, 20, 21, 22, 28, 29, 34, 35, 37, 311, 10, 4, 5, 8, 14, 17, 18, 19, 33,
    36, 38],
   [3, 179, 2, 1, 2, 317, 8, 20, 21, 22, 24, 30, 34, 35, 37, 315, 10, 5, 8, 14, 17, 18, 19, 32, 33,
    36, 38],
   [3, 179, 2, 1, 2, 317, 8, 20, 21, 22, 28, 29, 34, 35, 37, 315, 10, 4, 5, 8, 14, 17, 18, 19, 33,
    36, 38],
   [4, 411, 1, 18, 179, 2, 1, 2, 321, 8, 20, 21, 22, 24, 30, 34, 35, 37, 319, 9, 5, 8, 14, 17, 19,
    32, 33, 36, 38],
   [4, 413, 1, 18, 179, 2, 1, 2, 321, 8, 20, 21, 22, 28, 29, 34, 35, 37, 319, 9, 4, 5, 8, 14, 17,
    19, 33, 36, 38],
   [3, 179, 2, 1, 2, 327, 8, 20, 21, 22, 24, 30, 34, 35, 37, 325, 10, 5, 8, 14, 17, 18, 19, 32, 33,
    36, 38],
   [3, 179, 2, 1, 2, 327, 8, 20, 21, 22, 28, 29, 34, 35, 37, 325, 10, 4, 5, 8, 14, 17, 18, 19, 33,
    36, 38],
   [9, 415, 1, 19, 417, 1, 20, 419, 1, 21, 421, 1, 24, 423, 1, 32, 367, 1, 85, 179, 2, 1, 2, 343, 5,
    22, 30, 34, 35, 37, 333, 7, 5, 8, 14, 17, 33, 36, 38],
   [3, 179, 2, 1, 2, 331, 8, 20, 21, 22, 24, 30, 34, 35, 37, 329, 10, 5, 8, 14, 17, 18, 19, 32, 33,
    36, 38],
   [3, 179, 2, 1, 2, 331, 8, 20, 21, 22, 28, 29, 34, 35, 37, 329, 10, 4, 5, 8, 14, 17, 18, 19, 33,
    36, 38],
   [6, 399, 1, 19, 401, 1, 20, 403, 1, 21, 179, 2, 1, 2, 427, 7, 22, 24, 28, 29, 34, 35, 37, 425, 8,
    4, 5, 8, 14, 17, 33, 36, 38],
   [3, 179, 2, 1, 2, 351, 8, 20, 21, 22, 24, 30, 34, 35, 37, 349, 9, 5, 8, 14, 17, 19, 32, 33, 36,
    38],
   [3, 179, 2, 1, 2, 351, 8, 20, 21, 22, 28, 29, 34, 35, 37, 349, 9, 4, 5, 8, 14, 17, 19, 33, 36, 38],
   [3, 179, 2, 1, 2, 351, 8, 20, 21, 22, 24, 30, 34, 35, 37, 349, 9, 5, 8, 14, 17, 19, 32, 33, 36,
    38],
   [3, 179, 2, 1, 2, 351, 8, 20, 21, 22, 28, 29, 34, 35, 37, 349, 9, 4, 5, 8, 14, 17, 19, 33, 36, 38],
   [3, 179, 2, 1, 2, 351, 8, 20, 21, 22, 24, 30, 34, 35, 37, 349, 9, 5, 8, 14, 17, 19, 32, 33, 36,
    38],
   [3, 179, 2, 1, 2, 351, 8, 20, 21, 22, 28, 29, 34, 35, 37, 349, 9, 4, 5, 8, 14, 17, 19, 33, 36, 38],
   [3, 179, 2, 1, 2, 351, 8, 20, 21, 22, 24, 30, 34, 35, 37, 349, 9, 5, 8, 14, 17, 19, 32, 33, 36,
    38],
   [3, 179, 2, 1, 2, 351, 8, 20, 21, 22, 28, 29, 34, 35, 37, 349, 9, 4, 5, 8, 14, 17, 19, 33, 36, 38],
   [3, 179, 2, 1, 2, 351, 8, 20, 21, 22, 24, 30, 34, 35, 37, 349, 9, 5, 8, 14, 17, 19, 32, 33, 36,
    38],
   [3, 179, 2, 1, 2, 351, 8, 20, 21, 22, 28, 29, 34, 35, 37, 349, 9, 4, 5, 8, 14, 17, 19, 33, 36, 38],
   [3, 179, 2, 1, 2, 351, 8, 20, 21, 22, 24, 30, 34, 35, 37, 349, 9, 5, 8, 14, 17, 19, 32, 33, 36,
    38],
   [3, 179, 2, 1, 2, 351, 8, 20, 21, 22, 28, 29, 34, 35, 37, 349, 9, 4, 5, 8, 14, 17, 19, 33, 36, 38],
   [3, 179, 2, 1, 2, 351, 8, 20, 21, 22, 24, 30, 34, 35, 37, 349, 9, 5, 8, 14, 17, 19, 32, 33, 36,
    38],
   [3, 179, 2, 1, 2, 351, 8, 20, 21, 22, 28, 29, 34, 35, 37, 349, 9, 4, 5, 8, 14, 17, 19, 33, 36, 38],
   [3, 179, 2, 1, 2, 351, 8, 20, 21, 22, 24, 30, 34, 35, 37, 349, 9, 5, 8, 14, 17, 19, 32, 33, 36,
    38],
   [3, 179, 2, 1, 2, 351, 8, 20, 21, 22, 28, 29, 34, 35, 37, 349, 9, 4, 5, 8, 14, 17, 19, 33, 36, 38],
   [3, 179, 2, 1, 2, 351, 8, 20, 21, 22, 24, 30, 34, 35, 37, 349, 9, 5, 8, 14, 17, 19, 32, 33, 36,
    38],
   [3, 179, 2, 1, 2, 351, 8, 20, 21, 22, 28, 29, 34, 35, 37, 349, 9, 4, 5, 8, 14, 17, 19, 33, 36, 38],
   [3, 179, 2, 1, 2, 351, 8, 20, 21, 22, 24, 30, 34, 35, 37, 349, 9, 5, 8, 14, 17, 19, 32, 33, 36,
    38],
   [3, 179, 2, 1, 2, 351, 8, 20, 21, 22, 28, 29, 34, 35, 37, 349, 9, 4, 5, 8, 14, 17, 19, 33, 36, 38],
   [3, 179, 2, 1, 2, 355, 8, 20, 21, 22, 24, 30, 34, 35, 37, 353, 9, 5, 8, 14, 17, 19, 32, 33, 36,
    38],
   [3, 179, 2, 1, 2, 355, 8, 20, 21, 22, 28, 29, 34, 35, 37, 353, 9, 4, 5, 8, 14, 17, 19, 33, 36, 38],
   [3, 179, 2, 1, 2, 359, 8, 20, 21, 22, 24, 30, 34, 35, 37, 357, 9, 5, 8, 14, 17, 19, 32, 33, 36,
    38],
   [3, 179, 2, 1, 2, 359, 8, 20, 21, 22, 28, 29, 34, 35, 37, 357, 9, 4, 5, 8, 14, 17, 19, 33, 36, 38],
   [3, 179, 2, 1, 2, 363, 8, 20, 21, 22, 24, 30, 34, 35, 37, 361, 9, 5, 8, 14, 17, 19, 32, 33, 36,
    38],
   [3, 179, 2, 1, 2, 363, 8, 20, 21, 22, 28, 29, 34, 35, 37, 361, 9, 4, 5, 8, 14, 17, 19, 33, 36, 38],
   [3, 179, 2, 1, 2, 367, 8, 20, 21, 22, 24, 30, 34, 35, 37, 365, 9, 5, 8, 14, 17, 19, 32, 33, 36,
    38],
   [3, 179, 2, 1, 2, 367, 8, 20, 21, 22, 28, 29, 34, 35, 37, 365, 9, 4, 5, 8, 14, 17, 19, 33, 36, 38],
   [3, 179, 2, 1, 2, 371, 8, 20, 21, 22, 24, 30, 34, 35, 37, 369, 9, 5, 8, 14, 17, 19, 32, 33, 36,
    38],
   [3, 179, 2, 1, 2, 371, 8, 20, 21, 22, 28, 29, 34, 35, 37, 369, 9, 4, 5, 8, 14, 17, 19, 33, 36, 38],
   [3, 179, 2, 1, 2, 375, 8, 20, 21, 22, 24, 30, 34, 35, 37, 373, 9, 5, 8, 14, 17, 19, 32, 33, 36,
    38],
   [3, 179, 2, 1, 2, 375, 8, 20, 21, 22, 28, 29, 34, 35, 37, 373, 9, 4, 5, 8, 14, 17, 19, 33, 36, 38],
   [5, 429, 1, 18, 282, 1, 88, 179, 2, 1, 2, 305, 7, 20, 21, 22, 30, 34, 35, 37, 303, 8, 5, 8, 14,
    17, 19, 33, 36, 38],
   [3, 313, 1, 21, 179, 2, 1, 2, 311, 16, 5, 8, 10, 11, 13, 16, 18, 19, 20, 23, 24, 27, 29, 30, 31,
    32],
   [3, 317, 1, 21, 179, 2, 1, 2, 315, 16, 5, 8, 10, 11, 13, 16, 18, 19, 20, 23, 24, 27, 29, 30, 31,
    32],
   [3, 179, 2, 1, 2, 379, 8, 20, 21, 22, 24, 30, 34, 35, 37, 377, 9, 5, 8, 14, 17, 19, 32, 33, 36,
    38],
   [3, 179, 2, 1, 2, 379, 8, 20, 21, 22, 28, 29, 34, 35, 37, 377, 9, 4, 5, 8, 14, 17, 19, 33, 36, 38],
   [3, 179, 2, 1, 2, 379, 8, 20, 21, 22, 24, 30, 34, 35, 37, 377, 9, 5, 8, 14, 17, 19, 32, 33, 36,
    38],
   [3, 179, 2, 1, 2, 379, 8, 20, 21, 22, 28, 29, 34, 35, 37, 377, 9, 4, 5, 8, 14, 17, 19, 33, 36, 38],
   [4, 419, 1, 21, 179, 2, 1, 2, 383, 7, 20, 22, 24, 30, 34, 35, 37, 381, 9, 5, 8, 14, 17, 19, 32,
    33, 36, 38],
   [4, 431, 1, 21, 179, 2, 1, 2, 383, 7, 20, 22, 28, 29, 34, 35, 37, 381, 9, 4, 5, 8, 14, 17, 19,
    33, 36, 38],
   [4, 419, 1, 21, 179, 2, 1, 2, 383, 7, 20, 22, 24, 30, 34, 35, 37, 381, 9, 5, 8, 14, 17, 19, 32,
    33, 36, 38],
   [4, 431, 1, 21, 179, 2, 1, 2, 383, 7, 20, 22, 28, 29, 34, 35, 37, 381, 9, 4, 5, 8, 14, 17, 19,
    33, 36, 38],
   [3, 179, 2, 1, 2, 383, 8, 20, 21, 22, 24, 30, 34, 35, 37, 381, 9, 5, 8, 14, 17, 19, 32, 33, 36,
    38],
   [3, 179, 2, 1, 2, 383, 8, 20, 21, 22, 28, 29, 34, 35, 37, 381, 9, 4, 5, 8, 14, 17, 19, 33, 36, 38],
   [4, 433, 1, 18, 321, 1, 21, 179, 2, 1, 2, 319, 15, 5, 8, 10, 11, 13, 16, 19, 20, 23, 24, 27, 29,
    30, 31, 32],
   [3, 179, 2, 1, 2, 389, 8, 20, 21, 22, 24, 30, 34, 35, 37, 387, 9, 5, 8, 14, 17, 19, 32, 33, 36,
    38],
   [3, 179, 2, 1, 2, 389, 8, 20, 21, 22, 28, 29, 34, 35, 37, 387, 9, 4, 5, 8, 14, 17, 19, 33, 36, 38],
   [3, 179, 2, 1, 2, 393, 8, 20, 21, 22, 24, 30, 34, 35, 37, 391, 9, 5, 8, 14, 17, 19, 32, 33, 36,
    38],
   [3, 179, 2, 1, 2, 393, 8, 20, 21, 22, 28, 29, 34, 35, 37, 391, 9, 4, 5, 8, 14, 17, 19, 33, 36, 38],
   [3, 179, 2, 1, 2, 393, 8, 20, 21, 22, 24, 30, 34, 35, 37, 391, 9, 5, 8, 14, 17, 19, 32, 33, 36,
    38],
   [3, 179, 2, 1, 2, 393, 8, 20, 21, 22, 28, 29, 34, 35, 37, 391, 9, 4, 5, 8, 14, 17, 19, 33, 36, 38],
   [3, 179, 2, 1, 2, 397, 8, 20, 21, 22, 24, 30, 34, 35, 37, 395, 9, 5, 8, 14, 17, 19, 32, 33, 36,
    38],
   [3, 179, 2, 1, 2, 397, 8, 20, 21, 22, 28, 29, 34, 35, 37, 395, 9, 4, 5, 8, 14, 17, 19, 33, 36, 38],
   [3, 327, 1, 21, 179, 2, 1, 2, 325, 16, 5, 8, 10, 11, 13, 16, 18, 19, 20, 23, 24, 27, 29, 30, 31,
    32],
   [3, 331, 1, 21, 179, 2, 1, 2, 329, 16, 5, 8, 10, 11, 13, 16, 18, 19, 20, 23, 24, 27, 29, 30, 31,
    32],
   [6, 437, 1, 19, 439, 1, 20, 431, 1, 21, 179, 2, 1, 2, 441, 6, 22, 28, 29, 34, 35, 37, 435, 8, 4,
    5, 8, 14, 17, 33, 36, 38],
   [6, 437, 1, 19, 439, 1, 20, 431, 1, 21, 179, 2, 1, 2, 445, 6, 22, 28, 29, 34, 35, 37, 443, 8, 4,
    5, 8, 14, 17, 33, 36, 38],
   [3, 351, 1, 21, 179, 2, 1, 2, 349, 15, 5, 8, 10, 11, 13, 16, 19, 20, 23, 24, 27, 29, 30, 31, 32],
   [3, 351, 1, 21, 179, 2, 1, 2, 349, 15, 5, 8, 10, 11, 13, 16, 19, 20, 23, 24, 27, 29, 30, 31, 32],
   [3, 351, 1, 21, 179, 2, 1, 2, 349, 15, 5, 8, 10, 11, 13, 16, 19, 20, 23, 24, 27, 29, 30, 31, 32],
   [3, 351, 1, 21, 179, 2, 1, 2, 349, 15, 5, 8, 10, 11, 13, 16, 19, 20, 23, 24, 27, 29, 30, 31, 32],
   [3, 351, 1, 21, 179, 2, 1, 2, 349, 15, 5, 8, 10, 11, 13, 16, 19, 20, 23, 24, 27, 29, 30, 31, 32],
   [3, 351, 1, 21, 179, 2, 1, 2, 349, 15, 5, 8, 10, 11, 13, 16, 19, 20, 23, 24, 27, 29, 30, 31, 32],
   [3, 351, 1, 21, 179, 2, 1, 2, 349, 15, 5, 8, 10, 11, 13, 16, 19, 20, 23, 24, 27, 29, 30, 31, 32],
   [3, 351, 1, 21, 179, 2, 1, 2, 349, 15, 5, 8, 10, 11, 13, 16, 19, 20, 23, 24, 27, 29, 30, 31, 32],
   [3, 351, 1, 21, 179, 2, 1, 2, 349, 15, 5, 8, 10, 11, 13, 16, 19, 20, 23, 24, 27, 29, 30, 31, 32],
   [3, 351, 1, 21, 179, 2, 1, 2, 349, 15, 5, 8, 10, 11, 13, 16, 19, 20, 23, 24, 27, 29, 30, 31, 32],
   [3, 355, 1, 21, 179, 2, 1, 2, 353, 15, 5, 8, 10, 11, 13, 16, 19, 20, 23, 24, 27, 29, 30, 31, 32],
   [3, 359, 1, 21, 179, 2, 1, 2, 357, 15, 5, 8, 10, 11, 13, 16, 19, 20, 23, 24, 27, 29, 30, 31, 32],
   [3, 363, 1, 21, 179, 2, 1, 2, 361, 15, 5, 8, 10, 11, 13, 16, 19, 20, 23, 24, 27, 29, 30, 31, 32],
   [3, 367, 1, 21, 179, 2, 1, 2, 365, 15, 5, 8, 10, 11, 13, 16, 19, 20, 23, 24, 27, 29, 30, 31, 32],
   [3, 371, 1, 21, 179, 2, 1, 2, 369, 15, 5, 8, 10, 11, 13, 16, 19, 20, 23, 24, 27, 29, 30, 31, 32],
   [3, 375, 1, 21, 179, 2, 1, 2, 373, 15, 5, 8, 10, 11, 13, 16, 19, 20, 23, 24, 27, 29, 30, 31, 32],
   [5, 447, 1, 18, 311, 1, 88, 179, 2, 1, 2, 305, 6, 20, 21, 22, 34, 35, 37, 303, 8, 8, 14, 15, 17,
    19, 33, 36, 38],
   [3, 179, 2, 1, 2, 313, 7, 20, 21, 22, 30, 34, 35, 37, 311, 9, 5, 8, 14, 17, 18, 19, 33, 36, 38],
   [3, 179, 2, 1, 2, 317, 7, 20, 21, 22, 30, 34, 35, 37, 315, 9, 5, 8, 14, 17, 18, 19, 33, 36, 38],
   [4, 449, 1, 18, 179, 2, 1, 2, 321, 7, 20, 21, 22, 30, 34, 35, 37, 319, 8, 5, 8, 14, 17, 19, 33,
    36, 38],
   [3, 389, 1, 21, 179, 2, 1, 2, 387, 15, 5, 8, 10, 11, 13, 16, 19, 20, 23, 24, 27, 29, 30, 31, 32],
   [3, 397, 1, 21, 179, 2, 1, 2, 395, 15, 5, 8, 10, 11, 13, 16, 19, 20, 23, 24, 27, 29, 30, 31, 32],
   [3, 179, 2, 1, 2, 327, 7, 20, 21, 22, 30, 34, 35, 37, 325, 9, 5, 8, 14, 17, 18, 19, 33, 36, 38],
   [3, 179, 2, 1, 2, 331, 7, 20, 21, 22, 30, 34, 35, 37, 329, 9, 5, 8, 14, 17, 18, 19, 33, 36, 38],
   [6, 415, 1, 19, 417, 1, 20, 419, 1, 21, 179, 2, 1, 2, 427, 6, 22, 24, 30, 34, 35, 37, 425, 7, 5,
    8, 14, 17, 33, 36, 38],
   [3, 179, 2, 1, 2, 351, 7, 20, 21, 22, 30, 34, 35, 37, 349, 8, 5, 8, 14, 17, 19, 33, 36, 38],
   [3, 179, 2, 1, 2, 351, 7, 20, 21, 22, 30, 34, 35, 37, 349, 8, 5, 8, 14, 17, 19, 33, 36, 38],
   [3, 179, 2, 1, 2, 351, 7, 20, 21, 22, 30, 34, 35, 37, 349, 8, 5, 8, 14, 17, 19, 33, 36, 38],
   [3, 179, 2, 1, 2, 351, 7, 20, 21, 22, 30, 34, 35, 37, 349, 8, 5, 8, 14, 17, 19, 33, 36, 38],
   [3, 179, 2, 1, 2, 351, 7, 20, 21, 22, 30, 34, 35, 37, 349, 8, 5, 8, 14, 17, 19, 33, 36, 38],
   [3, 179, 2, 1, 2, 351, 7, 20, 21, 22, 30, 34, 35, 37, 349, 8, 5, 8, 14, 17, 19, 33, 36, 38],
   [3, 179, 2, 1, 2, 351, 7, 20, 21, 22, 30, 34, 35, 37, 349, 8, 5, 8, 14, 17, 19, 33, 36, 38],
   [3, 179, 2, 1, 2, 351, 7, 20, 21, 22, 30, 34, 35, 37, 349, 8, 5, 8, 14, 17, 19, 33, 36, 38],
   [3, 179, 2, 1, 2, 351, 7, 20, 21, 22, 30, 34, 35, 37, 349, 8, 5, 8, 14, 17, 19, 33, 36, 38],
   [3, 179, 2, 1, 2, 351, 7, 20, 21, 22, 30, 34, 35, 37, 349, 8, 5, 8, 14, 17, 19, 33, 36, 38],
   [3, 179, 2, 1, 2, 355, 7, 20, 21, 22, 30, 34, 35, 37, 353, 8, 5, 8, 14, 17, 19, 33, 36, 38],
   [3, 179, 2, 1, 2, 359, 7, 20, 21, 22, 30, 34, 35, 37, 357, 8, 5, 8, 14, 17, 19, 33, 36, 38],
   [3, 179, 2, 1, 2, 363, 7, 20, 21, 22, 30, 34, 35, 37, 361, 8, 5, 8, 14, 17, 19, 33, 36, 38],
   [3, 179, 2, 1, 2, 367, 7, 20, 21, 22, 30, 34, 35, 37, 365, 8, 5, 8, 14, 17, 19, 33, 36, 38],
   [3, 179, 2, 1, 2, 371, 7, 20, 21, 22, 30, 34, 35, 37, 369, 8, 5, 8, 14, 17, 19, 33, 36, 38],
   [3, 179, 2, 1, 2, 375, 7, 20, 21, 22, 30, 34, 35, 37, 373, 8, 5, 8, 14, 17, 19, 33, 36, 38],
   [3, 179, 2, 1, 2, 313, 6, 20, 21, 22, 34, 35, 37, 311, 9, 8, 14, 15, 17, 18, 19, 33, 36, 38],
   [3, 179, 2, 1, 2, 317, 6, 20, 21, 22, 34, 35, 37, 315, 9, 8, 14, 15, 17, 18, 19, 33, 36, 38],
   [3, 179, 2, 1, 2, 379, 7, 20, 21, 22, 30, 34, 35, 37, 377, 8, 5, 8, 14, 17, 19, 33, 36, 38],
   [3, 179, 2, 1, 2, 379, 7, 20, 21, 22, 30, 34, 35, 37, 377, 8, 5, 8, 14, 17, 19, 33, 36, 38],
   [4, 451, 1, 21, 179, 2, 1, 2, 383, 6, 20, 22, 30, 34, 35, 37, 381, 8, 5, 8, 14, 17, 19, 33, 36,
    38],
   [4, 451, 1, 21, 179, 2, 1, 2, 383, 6, 20, 22, 30, 34, 35, 37, 381, 8, 5, 8, 14, 17, 19, 33, 36,
    38],
   [3, 179, 2, 1, 2, 383, 7, 20, 21, 22, 30, 34, 35, 37, 381, 8, 5, 8, 14, 17, 19, 33, 36, 38],
   [4, 453, 1, 18, 179, 2, 1, 2, 321, 6, 20, 21, 22, 34, 35, 37, 319, 8, 8, 14, 15, 17, 19, 33, 36,
    38],
   [3, 179, 2, 1, 2, 389, 7, 20, 21, 22, 30, 34, 35, 37, 387, 8, 5, 8, 14, 17, 19, 33, 36, 38],
   [3, 179, 2, 1, 2, 393, 7, 20, 21, 22, 30, 34, 35, 37, 391, 8, 5, 8, 14, 17, 19, 33, 36, 38],
   [3, 179, 2, 1, 2, 393, 7, 20, 21, 22, 30, 34, 35, 37, 391, 8, 5, 8, 14, 17, 19, 33, 36, 38],
   [3, 179, 2, 1, 2, 397, 7, 20, 21, 22, 30, 34, 35, 37, 395, 8, 5, 8, 14, 17, 19, 33, 36, 38],
   [3, 179, 2, 1, 2, 327, 6, 20, 21, 22, 34, 35, 37, 325, 9, 8, 14, 15, 17, 18, 19, 33, 36, 38],
   [3, 179, 2, 1, 2, 331, 6, 20, 21, 22, 34, 35, 37, 329, 9, 8, 14, 15, 17, 18, 19, 33, 36, 38],
   [4, 459, 1, 24, 3, 2, 1, 2, 457, 6, 22, 28, 29, 34, 35, 37, 455, 8, 4, 5, 8, 14, 17, 33, 36, 38],
   [6, 463, 1, 19, 465, 1, 20, 451, 1, 21, 179, 2, 1, 2, 467, 5, 22, 30, 34, 35, 37, 461, 7, 5, 8,
    14, 17, 33, 36, 38],
   [6, 463, 1, 19, 465, 1, 20, 451, 1, 21, 179, 2, 1, 2, 441, 5, 22, 30, 34, 35, 37, 435, 7, 5, 8,
    14, 17, 33, 36, 38],
   [6, 463, 1, 19, 465, 1, 20, 451, 1, 21, 179, 2, 1, 2, 445, 5, 22, 30, 34, 35, 37, 443, 7, 5, 8,
    14, 17, 33, 36, 38],
   [3, 179, 2, 1, 2, 351, 6, 20, 21, 22, 34, 35, 37, 349, 8, 8, 14, 15, 17, 19, 33, 36, 38],
   [3, 179, 2, 1, 2, 351, 6, 20, 21, 22, 34, 35, 37, 349, 8, 8, 14, 15, 17, 19, 33, 36, 38],
   [3, 179, 2, 1, 2, 351, 6, 20, 21, 22, 34, 35, 37, 349, 8, 8, 14, 15, 17, 19, 33, 36, 38],
   [3, 179, 2, 1, 2, 351, 6, 20, 21, 22, 34, 35, 37, 349, 8, 8, 14, 15, 17, 19, 33, 36, 38],
   [3, 179, 2, 1, 2, 351, 6, 20, 21, 22, 34, 35, 37, 349, 8, 8, 14, 15, 17, 19, 33, 36, 38],
   [3, 179, 2, 1, 2, 351, 6, 20, 21, 22, 34, 35, 37, 349, 8, 8, 14, 15, 17, 19, 33, 36, 38],
   [3, 179, 2, 1, 2, 351, 6, 20, 21, 22, 34, 35, 37, 349, 8, 8, 14, 15, 17, 19, 33, 36, 38],
   [3, 179, 2, 1, 2, 351, 6, 20, 21, 22, 34, 35, 37, 349, 8, 8, 14, 15, 17, 19, 33, 36, 38],
   [3, 179, 2, 1, 2, 351, 6, 20, 21, 22, 34, 35, 37, 349, 8, 8, 14, 15, 17, 19, 33, 36, 38],
   [3, 179, 2, 1, 2, 351, 6, 20, 21, 22, 34, 35, 37, 349, 8, 8, 14, 15, 17, 19, 33, 36, 38],
   [3, 179, 2, 1, 2, 355, 6, 20, 21, 22, 34, 35, 37, 353, 8, 8, 14, 15, 17, 19, 33, 36, 38],
   [3, 179, 2, 1, 2, 359, 6, 20, 21, 22, 34, 35, 37, 357, 8, 8, 14, 15, 17, 19, 33, 36, 38],
   [3, 179, 2, 1, 2, 363, 6, 20, 21, 22, 34, 35, 37, 361, 8, 8, 14, 15, 17, 19, 33, 36, 38],
   [3, 179, 2, 1, 2, 367, 6, 20, 21, 22, 34, 35, 37, 365, 8, 8, 14, 15, 17, 19, 33, 36, 38],
   [3, 179, 2, 1, 2, 371, 6, 20, 21, 22, 34, 35, 37, 369, 8, 8, 14, 15, 17, 19, 33, 36, 38],
   [3, 179, 2, 1, 2, 375, 6, 20, 21, 22, 34, 35, 37, 373, 8, 8, 14, 15, 17, 19, 33, 36, 38],
   [3, 179, 2, 1, 2, 379, 6, 20, 21, 22, 34, 35, 37, 377, 8, 8, 14, 15, 17, 19, 33, 36, 38],
   [3, 179, 2, 1, 2, 379, 6, 20, 21, 22, 34, 35, 37, 377, 8, 8, 14, 15, 17, 19, 33, 36, 38],
   [4, 187, 1, 21, 179, 2, 1, 2, 383, 5, 20, 22, 34, 35, 37, 381, 8, 8, 14, 15, 17, 19, 33, 36, 38],
   [4, 187, 1, 21, 179, 2, 1, 2, 383, 5, 20, 22, 34, 35, 37, 381, 8, 8, 14, 15, 17, 19, 33, 36, 38],
   [3, 179, 2, 1, 2, 383, 6, 20, 21, 22, 34, 35, 37, 381, 8, 8, 14, 15, 17, 19, 33, 36, 38],
   [3, 179, 2, 1, 2, 389, 6, 20, 21, 22, 34, 35, 37, 387, 8, 8, 14, 15, 17, 19, 33, 36, 38],
   [3, 179, 2, 1, 2, 393, 6, 20, 21, 22, 34, 35, 37, 391, 8, 8, 14, 15, 17, 19, 33, 36, 38],
   [3, 179, 2, 1, 2, 393, 6, 20, 21, 22, 34, 35, 37, 391, 8, 8, 14, 15, 17, 19, 33, 36, 38],
   [3, 179, 2, 1, 2, 397, 6, 20, 21, 22, 34, 35, 37, 395, 8, 8, 14, 15, 17, 19, 33, 36, 38],
   [3, 3, 2, 1, 2, 471, 6, 22, 28, 29, 34, 35, 37, 469, 8, 4, 5, 8, 14, 17, 33, 36, 38],
   [3, 3, 2, 1, 2, 471, 6, 22, 28, 29, 34, 35, 37, 469, 8, 4, 5, 8, 14, 17, 33, 36, 38],
   [3, 3, 2, 1, 2, 471, 6, 22, 28, 29, 34, 35, 37, 469, 8, 4, 5, 8, 14, 17, 33, 36, 38],
   [3, 3, 2, 1, 2, 471, 6, 22, 28, 29, 34, 35, 37, 469, 8, 4, 5, 8, 14, 17, 33, 36, 38],
   [3, 3, 2, 1, 2, 471, 6, 22, 28, 29, 34, 35, 37, 469, 8, 4, 5, 8, 14, 17, 33, 36, 38],
   [3, 3, 2, 1, 2, 471, 6, 22, 28, 29, 34, 35, 37, 469, 8, 4, 5, 8, 14, 17, 33, 36, 38],
   [3, 3, 2, 1, 2, 471, 6, 22, 28, 29, 34, 35, 37, 469, 8, 4, 5, 8, 14, 17, 33, 36, 38],
   [3, 3, 2, 1, 2, 475, 6, 22, 28, 29, 34, 35, 37, 473, 8, 4, 5, 8, 14, 17, 33, 36, 38],
   [3, 3, 2, 1, 2, 479, 6, 22, 28, 29, 34, 35, 37, 477, 8, 4, 5, 8, 14, 17, 33, 36, 38],
   [3, 3, 2, 1, 2, 483, 6, 22, 28, 29, 34, 35, 37, 481, 8, 4, 5, 8, 14, 17, 33, 36, 38],
   [3, 3, 2, 1, 2, 487, 6, 22, 28, 29, 34, 35, 37, 485, 8, 4, 5, 8, 14, 17, 33, 36, 38],
   [3, 3, 2, 1, 2, 491, 6, 22, 28, 29, 34, 35, 37, 489, 8, 4, 5, 8, 14, 17, 33, 36, 38],
   [3, 3, 2, 1, 2, 495, 6, 22, 28, 29, 34, 35, 37, 493, 8, 4, 5, 8, 14, 17, 33, 36, 38],
   [3, 3, 2, 1, 2, 499, 6, 22, 28, 29, 34, 35, 37, 497, 8, 4, 5, 8, 14, 17, 33, 36, 38],
   [3, 3, 2, 1, 2, 503, 6, 22, 28, 29, 34, 35, 37, 501, 8, 4, 5, 8, 14, 17, 33, 36, 38],
   [3, 3, 2, 1, 2, 507, 6, 22, 28, 29, 34, 35, 37, 505, 8, 4, 5, 8, 14, 17, 33, 36, 38],
   [3, 179, 2, 1, 2, 379, 5, 7, 12, 21, 22, 34, 377, 8, 0, 5, 8, 11, 16, 19, 20, 23],
   [3, 179, 2, 1, 2, 379, 5, 7, 12, 21, 22, 34, 377, 8, 0, 5, 8, 11, 16, 19, 20, 23],
   [3, 179, 2, 1, 2, 393, 5, 7, 12, 21, 22, 34, 391, 8, 0, 5, 8, 11, 16, 19, 20, 23],
   [3, 179, 2, 1, 2, 393, 5, 7, 12, 21, 22, 34, 391, 8, 0, 5, 8, 11, 16, 19, 20, 23],
   [4, 509, 1, 24, 3, 2, 1, 2, 457, 5, 22, 30, 34, 35, 37, 455, 7, 5, 8, 14, 17, 33, 36, 38],
   [3, 3, 2, 1, 2, 513, 5, 22, 30, 34, 35, 37, 511, 8, 5, 8, 11, 14, 17, 33, 36, 38],
   [3, 3, 2, 1, 2, 513, 5, 22, 30, 34, 35, 37, 511, 8, 5, 8, 11, 14, 17, 33, 36, 38],
   [3, 3, 2, 1, 2, 513, 5, 22, 30, 34, 35, 37, 511, 8, 5, 8, 11, 14, 17, 33, 36, 38],
   [3, 3, 2, 1, 2, 513, 5, 22, 30, 34, 35, 37, 511, 8, 5, 8, 11, 14, 17, 33, 36, 38],
   [3, 3, 2, 1, 2, 517, 5, 22, 30, 34, 35, 37, 515, 8, 5, 8, 11, 14, 17, 33, 36, 38],
   [3, 3, 2, 1, 2, 521, 5, 22, 30, 34, 35, 37, 519, 8, 5, 8, 11, 14, 17, 33, 36, 38],
   [3, 3, 2, 1, 2, 525, 5, 22, 30, 34, 35, 37, 523, 8, 5, 8, 11, 14, 17, 33, 36, 38],
   [3, 3, 2, 1, 2, 529, 5, 22, 30, 34, 35, 37, 527, 8, 5, 8, 11, 14, 17, 33, 36, 38],
   [3, 3, 2, 1, 2, 533, 5, 22, 30, 34, 35, 37, 531, 8, 5, 8, 11, 14, 17, 33, 36, 38],
   [3, 3, 2, 1, 2, 471, 5, 22, 30, 34, 35, 37, 469, 7, 5, 8, 14, 17, 33, 36, 38],
   [3, 3, 2, 1, 2, 471, 5, 22, 30, 34, 35, 37, 469, 7, 5, 8, 14, 17, 33, 36, 38],
   [3, 3, 2, 1, 2, 471, 5, 22, 30, 34, 35, 37, 469, 7, 5, 8, 14, 17, 33, 36, 38],
   [3, 3, 2, 1, 2, 471, 5, 22, 30, 34, 35, 37, 469, 7, 5, 8, 14, 17, 33, 36, 38],
   [3, 3, 2, 1, 2, 471, 5, 22, 30, 34, 35, 37, 469, 7, 5, 8, 14, 17, 33, 36, 38],
   [3, 3, 2, 1, 2, 471, 5, 22, 30, 34, 35, 37, 469, 7, 5, 8, 14, 17, 33, 36, 38],
   [3, 3, 2, 1, 2, 471, 5, 22, 30, 34, 35, 37, 469, 7, 5, 8, 14, 17, 33, 36, 38],
   [3, 3, 2, 1, 2, 475, 5, 22, 30, 34, 35, 37, 473, 7, 5, 8, 14, 17, 33, 36, 38],
   [3, 3, 2, 1, 2, 537, 5, 22, 30, 34, 35, 37, 535, 7, 5, 8, 14, 17, 33, 36, 38],
   [3, 3, 2, 1, 2, 483, 5, 22, 30, 34, 35, 37, 481, 7, 5, 8, 14, 17, 33, 36, 38],
   [3, 3, 2, 1, 2, 541, 5, 22, 30, 34, 35, 37, 539, 7, 5, 8, 14, 17, 33, 36, 38],
   [3, 3, 2, 1, 2, 487, 5, 22, 30, 34, 35, 37, 485, 7, 5, 8, 14, 17, 33, 36, 38],
   [3, 3, 2, 1, 2, 495, 5, 22, 30, 34, 35, 37, 493, 7, 5, 8, 14, 17, 33, 36, 38],
   [3, 3, 2, 1, 2, 545, 5, 22, 30, 34, 35, 37, 543, 7, 5, 8, 14, 17, 33, 36, 38],
   [3, 3, 2, 1, 2, 499, 5, 22, 30, 34, 35, 37, 497, 7, 5, 8, 14, 17, 33, 36, 38],
   [3, 3, 2, 1, 2, 503, 5, 22, 30, 34, 35, 37, 501, 7, 5, 8, 14, 17, 33, 36, 38],
   [3, 3, 2, 1, 2, 549, 5, 22, 30, 34, 35, 37, 547, 7, 5, 8, 14, 17, 33, 36, 38],
   [3, 3, 2, 1, 2, 507, 5, 22, 30, 34, 35, 37, 505, 7, 5, 8, 14, 17, 33, 36, 38],
   [3, 3, 2, 1, 2, 553, 5, 22, 30, 34, 35, 37, 551, 7, 5, 8, 14, 17, 33, 36, 38],
   [3, 3, 2, 1, 2, 557, 5, 22, 30, 34, 35, 37, 555, 7, 5, 8, 14, 17, 33, 36, 38],
   [3, 3, 2, 1, 2, 557, 5, 22, 30, 34, 35, 37, 555, 7, 5, 8, 14, 17, 33, 36, 38],
   [3, 3, 2, 1, 2, 561, 5, 22, 30, 34, 35, 37, 559, 7, 5, 8, 14, 17, 33, 36, 38],
   [3, 3, 2, 1, 2, 565, 5, 22, 30, 34, 35, 37, 563, 7, 5, 8, 14, 17, 33, 36, 38],
   [12, 567, 1, 0, 9, 1, 7, 11, 1, 12, 13, 1, 22, 15, 1, 34, 455, 1, 44, 451, 1, 45, 452, 1, 46,
    453, 1, 47, 454, 1, 62, 409, 1, 86, 3, 2, 1, 2],
   [3, 379, 1, 21, 179, 2, 1, 2, 377, 10, 10, 13, 19, 20, 24, 27, 29, 30, 31, 32],
   [3, 379, 1, 21, 179, 2, 1, 2, 377, 10, 10, 13, 19, 20, 24, 27, 29, 30, 31, 32],
   [3, 569, 1, 21, 179, 2, 1, 2, 381, 10, 10, 13, 19, 20, 24, 27, 29, 30, 31, 32],
   [3, 569, 1, 21, 179, 2, 1, 2, 381, 10, 10, 13, 19, 20, 24, 27, 29, 30, 31, 32],
   [3, 383, 1, 21, 179, 2, 1, 2, 381, 10, 10, 13, 19, 20, 24, 27, 29, 30, 31, 32],
   [3, 393, 1, 21, 179, 2, 1, 2, 391, 10, 10, 13, 19, 20, 24, 27, 29, 30, 31, 32],
   [3, 393, 1, 21, 179, 2, 1, 2, 391, 10, 10, 13, 19, 20, 24, 27, 29, 30, 31, 32],
   [11, 567, 1, 0, 9, 1, 7, 11, 1, 12, 13, 1, 22, 15, 1, 34, 456, 1, 44, 451, 1, 45, 452, 1, 46,
    453, 1, 47, 454, 1, 62, 3, 2, 1, 2],
   [11, 571, 1, 0, 9, 1, 7, 11, 1, 12, 13, 1, 22, 15, 1, 34, 456, 1, 44, 451, 1, 45, 452, 1, 46,
    453, 1, 47, 454, 1, 62, 3, 2, 1, 2],
   [5, 573, 1, 18, 413, 1, 88, 179, 2, 1, 2, 303, 3, 0, 19, 20, 305, 5, 7, 12, 21, 22, 34],
   [3, 179, 2, 1, 2, 311, 4, 0, 18, 19, 20, 313, 5, 7, 12, 21, 22, 34],
   [3, 179, 2, 1, 2, 315, 4, 0, 18, 19, 20, 317, 5, 7, 12, 21, 22, 34],
   [4, 575, 1, 18, 179, 2, 1, 2, 319, 3, 0, 19, 20, 321, 5, 7, 12, 21, 22, 34],
   [3, 179, 2, 1, 2, 325, 4, 0, 18, 19, 20, 327, 5, 7, 12, 21, 22, 34],
   [3, 179, 2, 1, 2, 329, 4, 0, 18, 19, 20, 331, 5, 7, 12, 21, 22, 34],
   [3, 179, 2, 1, 2, 349, 3, 0, 19, 20, 351, 5, 7, 12, 21, 22, 34],
   [3, 179, 2, 1, 2, 349, 3, 0, 19, 20, 351, 5, 7, 12, 21, 22, 34],
   [3, 179, 2, 1, 2, 349, 3, 0, 19, 20, 351, 5, 7, 12, 21, 22, 34],
   [3, 179, 2, 1, 2, 349, 3, 0, 19, 20, 351, 5, 7, 12, 21, 22, 34],
   [3, 179, 2, 1, 2, 349, 3, 0, 19, 20, 351, 5, 7, 12, 21, 22, 34],
   [3, 179, 2, 1, 2, 349, 3, 0, 19, 20, 351, 5, 7, 12, 21, 22, 34],
   [3, 179, 2, 1, 2, 349, 3, 0, 19, 20, 351, 5, 7, 12, 21, 22, 34],
   [3, 179, 2, 1, 2, 349, 3, 0, 19, 20, 351, 5, 7, 12, 21, 22, 34],
   [3, 179, 2, 1, 2, 349, 3, 0, 19, 20, 351, 5, 7, 12, 21, 22, 34],
   [3, 179, 2, 1, 2, 349, 3, 0, 19, 20, 351, 5, 7, 12, 21, 22, 34],
   [3, 179, 2, 1, 2, 353, 3, 0, 19, 20, 355, 5, 7, 12, 21, 22, 34],
   [3, 179, 2, 1, 2, 357, 3, 0, 19, 20, 359, 5, 7, 12, 21, 22, 34],
   [3, 179, 2, 1, 2, 361, 3, 0, 19, 20, 363, 5, 7, 12, 21, 22, 34],
   [3, 179, 2, 1, 2, 365, 3, 0, 19, 20, 367, 5, 7, 12, 21, 22, 34],
   [3, 179, 2, 1, 2, 369, 3, 0, 19, 20, 371, 5, 7, 12, 21, 22, 34],
   [3, 179, 2, 1, 2, 373, 3, 0, 19, 20, 375, 5, 7, 12, 21, 22, 34],
   [3, 577, 1, 21, 179, 2, 1, 2, 381, 7, 5, 8, 11, 16, 19, 20, 23],
   [4, 579, 1, 21, 179, 2, 1, 2, 381, 3, 0, 19, 20, 383, 4, 7, 12, 22, 34],
   [3, 577, 1, 21, 179, 2, 1, 2, 381, 7, 5, 8, 11, 16, 19, 20, 23],
   [4, 579, 1, 21, 179, 2, 1, 2, 381, 3, 0, 19, 20, 383, 4, 7, 12, 22, 34],
   [3, 383, 1, 21, 179, 2, 1, 2, 381, 7, 5, 8, 11, 16, 19, 20, 23],
   [3, 179, 2, 1, 2, 381, 3, 0, 19, 20, 383, 5, 7, 12, 21, 22, 34],
   [3, 179, 2, 1, 2, 387, 3, 0, 19, 20, 389, 5, 7, 12, 21, 22, 34],
   [6, 581, 1, 0, 585, 1, 19, 587, 1, 20, 579, 1, 21, 179, 2, 1, 2, 583, 4, 7, 12, 22, 34],
   [3, 179, 2, 1, 2, 395, 3, 0, 19, 20, 397, 5, 7, 12, 21, 22, 34],
   [5, 589, 1, 18, 305, 1, 21, 447, 1, 88, 179, 2, 1, 2, 303, 4, 5, 19, 20, 34],
   [8, 333, 1, 10, 591, 1, 19, 593, 1, 20, 569, 1, 21, 595, 1, 24, 597, 1, 32, 570, 1, 85, 179, 2,
    1, 2],
   [8, 591, 1, 19, 593, 1, 20, 569, 1, 21, 599, 1, 27, 601, 1, 31, 588, 1, 80, 584, 1, 81, 179, 2,
    1, 2],
   [3, 313, 1, 21, 179, 2, 1, 2, 311, 5, 5, 18, 19, 20, 34],
   [3, 317, 1, 21, 179, 2, 1, 2, 315, 5, 5, 18, 19, 20, 34],
   [7, 603, 1, 11, 605, 1, 19, 607, 1, 20, 577, 1, 21, 609, 1, 23, 567, 1, 89, 179, 2, 1, 2],
   [4, 611, 1, 18, 321, 1, 21, 179, 2, 1, 2, 319, 4, 5, 19, 20, 34],
   [3, 327, 1, 21, 179, 2, 1, 2, 325, 5, 5, 18, 19, 20, 34],
   [3, 331, 1, 21, 179, 2, 1, 2, 329, 5, 5, 18, 19, 20, 34]]

/-- The rows of the states from 450 to 684. -/
def rows3 : List (List Nat) :=
  [[5, 591, 1, 19, 593, 1, 20, 569, 1, 21, 179, 2, 1, 2, 613, 3, 13, 27, 31],
   [3, 615, 1, 0, 3, 2, 1, 2, 617, 4, 7, 12, 22, 34],
   [3, 615, 1, 0, 3, 2, 1, 2, 617, 4, 7, 12, 22, 34],
   [3, 615, 1, 0, 3, 2, 1, 2, 617, 4, 7, 12, 22, 34],
   [3, 619, 1, 0, 3, 2, 1, 2, 621, 4, 7, 12, 22, 34],
   [3, 623, 1, 0, 3, 2, 1, 2, 625, 4, 7, 12, 22, 34],
   [3, 627, 1, 0, 3, 2, 1, 2, 629, 4, 7, 12, 22, 34],
   [3, 351, 1, 21, 179, 2, 1, 2, 349, 4, 5, 19, 20, 34],
   [3, 351, 1, 21, 179, 2, 1, 2, 349, 4, 5, 19, 20, 34],
   [3, 351, 1, 21, 179, 2, 1, 2, 349, 4, 5, 19, 20, 34],
   [3, 351, 1, 21, 179, 2, 1, 2, 349, 4, 5, 19, 20, 34],
   [3, 351, 1, 21, 179, 2, 1, 2, 349, 4, 5, 19, 20, 34],
   [3, 351, 1, 21, 179, 2, 1, 2, 349, 4, 5, 19, 20, 34],
   [3, 351, 1, 21, 179, 2, 1, 2, 349, 4, 5, 19, 20, 34],
   [3, 351, 1, 21, 179, 2, 1, 2, 349, 4, 5, 19, 20, 34],
   [3, 351, 1, 21, 179, 2, 1, 2, 349, 4, 5, 19, 20, 34],
   [3, 351, 1, 21, 179, 2, 1, 2, 349, 4, 5, 19, 20, 34],
   [3, 355, 1, 21, 179, 2, 1, 2, 353, 4, 5, 19, 20, 34],
   [3, 359, 1, 21, 179, 2, 1, 2, 357, 4, 5, 19, 20, 34],
   [3, 363, 1, 21, 179, 2, 1, 2, 361, 4, 5, 19, 20, 34],
   [3, 367, 1, 21, 179, 2, 1, 2, 365, 4, 5, 19, 20, 34],
   [3, 371, 1, 21, 179, 2, 1, 2, 369, 4, 5, 19, 20, 34],
   [3, 375, 1, 21, 179, 2, 1, 2, 373, 4, 5, 19, 20, 34],
   [3, 631, 1, 0, 3, 2, 1, 2, 633, 4, 7, 12, 22, 34],
   [3, 379, 1, 21, 179, 2, 1, 2, 377, 4, 5, 19, 20, 34],
   [3, 379, 1, 21, 179, 2, 1, 2, 377, 4, 5, 19, 20, 34],
   [3, 635, 1, 0, 3, 2, 1, 2, 637, 4, 7, 12, 22, 34],
   [3, 639, 1, 21, 179, 2, 1, 2, 381, 4, 5, 19, 20, 34],
   [3, 639, 1, 21, 179, 2, 1, 2, 381, 4, 5, 19, 20, 34],
   [3, 383, 1, 21, 179, 2, 1, 2, 381, 4, 5, 19, 20, 34],
   [3, 389, 1, 21, 179, 2, 1, 2, 387, 4, 5, 19, 20, 34],
   [3, 393, 1, 21, 179, 2, 1, 2, 391, 4, 5, 19, 20, 34],
   [3, 393, 1, 21, 179, 2, 1, 2, 391, 4, 5, 19, 20, 34],
   [3, 397, 1, 21, 179, 2, 1, 2, 395, 4, 5, 19, 20, 34],
   [5, 605, 1, 19, 607, 1, 20, 577, 1, 21, 179, 2, 1, 2, 641, 2, 11, 23],
   [5, 645, 1, 19, 647, 1, 20, 639, 1, 21, 179, 2, 1, 2, 643, 2, 5, 34],
   [5, 605, 1, 19, 607, 1, 20, 577, 1, 21, 179, 2, 1, 2, 649, 2, 11, 23],
   [5, 591, 1, 19, 593, 1, 20, 569, 1, 21, 179, 2, 1, 2, 425, 2, 10, 24],
   [5, 605, 1, 19, 607, 1, 20, 577, 1, 21, 179, 2, 1, 2, 461, 2, 5, 11],
   [5, 591, 1, 19, 593, 1, 20, 569, 1, 21, 179, 2, 1, 2, 461, 2, 29, 30],
   [3, 651, 1, 0, 3, 2, 1, 2, 653, 4, 7, 12, 22, 34],
   [5, 655, 1, 5, 657, 1, 34, 565, 1, 42, 538, 1, 87, 3, 2, 1, 2],
   [5, 659, 1, 8, 605, 1, 19, 607, 1, 20, 577, 1, 21, 179, 2, 1, 2],
   [5, 659, 1, 13, 591, 1, 19, 593, 1, 20, 569, 1, 21, 179, 2, 1, 2],
   [5, 661, 1, 11, 605, 1, 19, 607, 1, 20, 577, 1, 21, 179, 2, 1, 2],
   [5, 663, 1, 11, 605, 1, 19, 607, 1, 20, 577, 1, 21, 179, 2, 1, 2],
   [5, 665, 1, 11, 605, 1, 19, 607, 1, 20, 577, 1, 21, 179, 2, 1, 2],
   [5, 667, 1, 11, 605, 1, 19, 607, 1, 20, 577, 1, 21, 179, 2, 1, 2],
   [5, 669, 1, 11, 605, 1, 19, 607, 1, 20, 577, 1, 21, 179, 2, 1, 2],
   [5, 671, 1, 11, 605, 1, 19, 607, 1, 20, 577, 1, 21, 179, 2, 1, 2],
   [5, 673, 1, 11, 605, 1, 19, 607, 1, 20, 577, 1, 21, 179, 2, 1, 2],
   [5, 675, 1, 11, 605, 1, 19, 607, 1, 20, 577, 1, 21, 179, 2, 1, 2],
   [5, 677, 1, 11, 605, 1, 19, 607, 1, 20, 577, 1, 21, 179, 2, 1, 2],
   [4, 681, 1, 6, 568, 1, 43, 3, 2, 1, 2, 679, 2, 5, 34],
   [5, 683, 1, 16, 605, 1, 19, 607, 1, 20, 577, 1, 21, 179, 2, 1, 2],
   [5, 685, 1, 16, 605, 1, 19, 607, 1, 20, 577, 1, 21, 179, 2, 1, 2],
   [5, 687, 1, 16, 605, 1, 19, 607, 1, 20, 577, 1, 21, 179, 2, 1, 2],
   [5, 689, 1, 16, 605, 1, 19, 607, 1, 20, 577, 1, 21, 179, 2, 1, 2],
   [5, 691, 1, 16, 605, 1, 19, 607, 1, 20, 577, 1, 21, 179, 2, 1, 2],
   [5, 693, 1, 16, 605, 1, 19, 607, 1, 20, 577, 1, 21, 179, 2, 1, 2],
   [5, 695, 1, 16, 605, 1, 19, 607, 1, 20, 577, 1, 21, 179, 2, 1, 2],
   [5, 697, 1, 16, 605, 1, 19, 607, 1, 20, 577, 1, 21, 179, 2, 1, 2],
   [5, 699, 1, 16, 605, 1, 19, 607, 1, 20, 577, 1, 21, 179, 2, 1, 2],
   [5, 701, 1, 13, 591, 1, 19, 593, 1, 20, 569, 1, 21, 179, 2, 1, 2],
   [5, 703, 1, 13, 591, 1, 19, 593, 1, 20, 569, 1, 21, 179, 2, 1, 2],
   [5, 705, 1, 13, 591, 1, 19, 593, 1, 20, 569, 1, 21, 179, 2, 1, 2],
   [5, 707, 1, 27, 710, 1, 31, 677, 1, 80, 396, 1, 81, 3, 2, 1, 2],
   [5, 707, 1, 27, 710, 1, 31, 678, 1, 80, 396, 1, 81, 3, 2, 1, 2],
   [5, 713, 1, 27, 715, 1, 31, 398, 1, 80, 396, 1, 81, 3, 2, 1, 2],
   [5, 717, 1, 29, 719, 1, 30, 581, 1, 79, 562, 1, 93, 3, 2, 1, 2],
   [5, 717, 1, 29, 721, 1, 30, 581, 1, 79, 563, 1, 93, 3, 2, 1, 2],
   [5, 723, 1, 27, 715, 1, 31, 679, 1, 80, 396, 1, 81, 3, 2, 1, 2],
   [5, 723, 1, 27, 715, 1, 31, 680, 1, 80, 396, 1, 81, 3, 2, 1, 2],
   [5, 723, 1, 27, 715, 1, 31, 681, 1, 80, 396, 1, 81, 3, 2, 1, 2],
   [5, 723, 1, 27, 715, 1, 31, 682, 1, 80, 396, 1, 81, 3, 2, 1, 2],
   [5, 435, 1, 10, 591, 1, 19, 593, 1, 20, 569, 1, 21, 179, 2, 1, 2],
   [5, 723, 1, 27, 715, 1, 31, 683, 1, 80, 396, 1, 81, 3, 2, 1, 2],
   [5, 723, 1, 27, 715, 1, 31, 684, 1, 80, 396, 1, 81, 3, 2, 1, 2],
   [5, 443, 1, 10, 591, 1, 19, 593, 1, 20, 569, 1, 21, 179, 2, 1, 2],
   [4, 725, 1, 33, 727, 1, 39, 192, 1, 55, 3, 2, 1, 2],
   [4, 729, 1, 33, 731, 1, 39, 279, 1, 55, 3, 2, 1, 2],
   [4, 733, 1, 33, 735, 1, 39, 410, 1, 55, 3, 2, 1, 2],
   [4, 737, 1, 33, 739, 1, 39, 441, 1, 55, 3, 2, 1, 2],
   [4, 741, 1, 33, 743, 1, 39, 109, 1, 55, 3, 2, 1, 2],
   [4, 745, 1, 33, 747, 1, 39, 127, 1, 55, 3, 2, 1, 2],
   [4, 749, 1, 33, 751, 1, 39, 181, 1, 55, 3, 2, 1, 2],
   [4, 753, 1, 33, 755, 1, 39, 237, 1, 55, 3, 2, 1, 2],
   [4, 757, 1, 33, 759, 1, 39, 182, 1, 55, 3, 2, 1, 2],
   [4, 761, 1, 5, 657, 1, 34, 566, 1, 42, 3, 2, 1, 2],
   [4, 725, 1, 33, 727, 1, 39, 259, 1, 55, 3, 2, 1, 2],
   [4, 729, 1, 33, 731, 1, 39, 316, 1, 55, 3, 2, 1, 2],
   [4, 733, 1, 33, 735, 1, 39, 414, 1, 55, 3, 2, 1, 2],
   [4, 737, 1, 33, 739, 1, 39, 448, 1, 55, 3, 2, 1, 2],
   [4, 741, 1, 33, 743, 1, 39, 131, 1, 55, 3, 2, 1, 2],
   [4, 745, 1, 33, 747, 1, 39, 162, 1, 55, 3, 2, 1, 2],
   [4, 749, 1, 33, 751, 1, 39, 199, 1, 55, 3, 2, 1, 2],
   [4, 753, 1, 33, 755, 1, 39, 285, 1, 55, 3, 2, 1, 2],
   [4, 757, 1, 33, 759, 1, 39, 200, 1, 55, 3, 2, 1, 2],
   [4, 725, 1, 33, 727, 1, 39, 260, 1, 55, 3, 2, 1, 2],
   [4, 729, 1, 33, 731, 1, 39, 317, 1, 55, 3, 2, 1, 2],
   [4, 733, 1, 33, 735, 1, 39, 415, 1, 55, 3, 2, 1, 2],
   [4, 737, 1, 33, 739, 1, 39, 449, 1, 55, 3, 2, 1, 2],
   [4, 741, 1, 33, 743, 1, 39, 132, 1, 55, 3, 2, 1, 2],
   [4, 745, 1, 33, 747, 1, 39, 164, 1, 55, 3, 2, 1, 2],
   [4, 749, 1, 33, 751, 1, 39, 202, 1, 55, 3, 2, 1, 2],
   [4, 753, 1, 33, 755, 1, 39, 286, 1, 55, 3, 2, 1, 2],
   [4, 757, 1, 33, 759, 1, 39, 203, 1, 55, 3, 2, 1, 2],
   [2, 3, 2, 1, 2, 763, 3, 13, 27, 31],
   [2, 3, 2, 1, 2, 763, 3, 13, 27, 31],
   [2, 3, 2, 1, 2, 765, 3, 13, 27, 31],
   [4, 717, 1, 29, 767, 1, 30, 583, 1, 79, 3, 2, 1, 2],
   [4, 717, 1, 29, 769, 1, 30, 583, 1, 79, 3, 2, 1, 2],
   [4, 717, 1, 29, 771, 1, 30, 583, 1, 79, 3, 2, 1, 2],
   [4, 717, 1, 29, 773, 1, 30, 583, 1, 79, 3, 2, 1, 2],
   [2, 3, 2, 1, 2, 775, 2, 8, 13],
   [2, 3, 2, 1, 2, 777, 2, 5, 34],
   [2, 3, 2, 1, 2, 779, 2, 5, 34],
   [3, 781, 1, 11, 783, 1, 23, 3, 2, 1, 2],
   [2, 3, 2, 1, 2, 785, 2, 5, 34],
   [2, 3, 2, 1, 2, 787, 2, 8, 13],
   [3, 455, 1, 10, 789, 1, 24, 3, 2, 1, 2],
   [3, 791, 1, 22, 793, 1, 25, 3, 2, 1, 2],
   [3, 795, 1, 22, 797, 1, 25, 3, 2, 1, 2],
   [3, 799, 1, 22, 801, 1, 25, 3, 2, 1, 2],
   [3, 803, 1, 22, 805, 1, 25, 3, 2, 1, 2],
   [3, 807, 1, 22, 809, 1, 25, 3, 2, 1, 2],
   [3, 811, 1, 22, 813, 1, 25, 3, 2, 1, 2],
   [2, 3, 2, 1, 2, 511, 2, 29, 30],
   [2, 3, 2, 1, 2, 511, 2, 29, 30],
   [2, 3, 2, 1, 2, 511, 2, 29, 30],
   [2, 3, 2, 1, 2, 511, 2, 29, 30],
   [2, 3, 2, 1, 2, 815, 2, 29, 30],
   [2, 3, 2, 1, 2, 515, 2, 29, 30],
   [2, 3, 2, 1, 2, 817, 2, 29, 30],
   [2, 3, 2, 1, 2, 555, 2, 29, 30],
   [2, 3, 2, 1, 2, 555, 2, 29, 30],
   [2, 3, 2, 1, 2, 519, 2, 29, 30],
   [2, 3, 2, 1, 2, 563, 2, 29, 30],
   [2, 3, 2, 1, 2, 819, 2, 29, 30],
   [2, 3, 2, 1, 2, 523, 2, 29, 30],
   [2, 3, 2, 1, 2, 527, 2, 29, 30],
   [2, 3, 2, 1, 2, 531, 2, 29, 30],
   [2, 821, 1, 4, 3, 2, 1, 2],
   [2, 823, 1, 8, 3, 2, 1, 2],
   [2, 825, 1, 8, 3, 2, 1, 2],
   [2, 827, 1, 8, 3, 2, 1, 2],
   [2, 829, 1, 8, 3, 2, 1, 2],
   [2, 831, 1, 8, 3, 2, 1, 2],
   [2, 833, 1, 8, 3, 2, 1, 2],
   [2, 835, 1, 8, 3, 2, 1, 2],
   [2, 837, 1, 8, 3, 2, 1, 2],
   [2, 839, 1, 8, 3, 2, 1, 2],
   [2, 841, 1, 8, 3, 2, 1, 2],
   [2, 843, 1, 8, 3, 2, 1, 2],
   [2, 845, 1, 8, 3, 2, 1, 2],
   [2, 847, 1, 8, 3, 2, 1, 2],
   [2, 849, 1, 8, 3, 2, 1, 2],
   [2, 851, 1, 8, 3, 2, 1, 2],
   [2, 853, 1, 8, 3, 2, 1, 2],
   [2, 855, 1, 8, 3, 2, 1, 2],
   [2, 857, 1, 8, 3, 2, 1, 2],
   [2, 859, 1, 0, 3, 2, 1, 2],
   [2, 861, 1, 8, 3, 2, 1, 2],
   [2, 863, 1, 13, 3, 2, 1, 2],
   [2, 865, 1, 33, 3, 2, 1, 2],
   [2, 867, 1, 9, 3, 2, 1, 2],
   [2, 869, 1, 11, 3, 2, 1, 2],
   [2, 871, 1, 11, 3, 2, 1, 2],
   [2, 873, 1, 11, 3, 2, 1, 2],
   [2, 875, 1, 11, 3, 2, 1, 2],
   [2, 877, 1, 11, 3, 2, 1, 2],
   [2, 879, 1, 11, 3, 2, 1, 2],
   [2, 881, 1, 11, 3, 2, 1, 2],
   [2, 883, 1, 11, 3, 2, 1, 2],
   [2, 885, 1, 11, 3, 2, 1, 2],
   [2, 887, 1, 11, 3, 2, 1, 2],
   [2, 889, 1, 11, 3, 2, 1, 2],
   [2, 891, 1, 11, 3, 2, 1, 2],
   [2, 893, 1, 11, 3, 2, 1, 2],
   [2, 895, 1, 11, 3, 2, 1, 2],
   [2, 897, 1, 11, 3, 2, 1, 2],
   [2, 899, 1, 11, 3, 2, 1, 2],
   [2, 901, 1, 11, 3, 2, 1, 2],
   [2, 903, 1, 11, 3, 2, 1, 2],
   [2, 905, 1, 6, 3, 2, 1, 2],
   [2, 907, 1, 16, 3, 2, 1, 2],
   [2, 909, 1, 10, 3, 2, 1, 2],
   [2, 469, 1, 10, 3, 2, 1, 2],
   [2, 469, 1, 10, 3, 2, 1, 2],
   [2, 469, 1, 10, 3, 2, 1, 2],
   [2, 469, 1, 10, 3, 2, 1, 2],
   [2, 469, 1, 10, 3, 2, 1, 2],
   [2, 469, 1, 10, 3, 2, 1, 2],
   [2, 469, 1, 10, 3, 2, 1, 2],
   [2, 911, 1, 4, 3, 2, 1, 2],
   [2, 913, 1, 4, 3, 2, 1, 2],
   [2, 915, 1, 4, 3, 2, 1, 2],
   [2, 917, 1, 6, 3, 2, 1, 2],
   [2, 473, 1, 10, 3, 2, 1, 2],
   [2, 919, 1, 13, 3, 2, 1, 2],
   [2, 921, 1, 22, 3, 2, 1, 2],
   [2, 923, 1, 22, 3, 2, 1, 2],
   [2, 925, 1, 22, 3, 2, 1, 2],
   [2, 927, 1, 26, 3, 2, 1, 2],
   [2, 929, 1, 26, 3, 2, 1, 2],
   [2, 931, 1, 26, 3, 2, 1, 2],
   [2, 481, 1, 10, 3, 2, 1, 2],
   [2, 485, 1, 10, 3, 2, 1, 2],
   [2, 933, 1, 11, 3, 2, 1, 2],
   [2, 935, 1, 4, 3, 2, 1, 2],
   [2, 937, 1, 4, 3, 2, 1, 2],
   [2, 939, 1, 22, 3, 2, 1, 2],
   [2, 941, 1, 22, 3, 2, 1, 2],
   [2, 943, 1, 22, 3, 2, 1, 2],
   [2, 945, 1, 26, 3, 2, 1, 2],
   [2, 947, 1, 26, 3, 2, 1, 2],
   [2, 949, 1, 26, 3, 2, 1, 2],
   [2, 493, 1, 10, 3, 2, 1, 2],
   [2, 951, 1, 27, 3, 2, 1, 2],
   [2, 953, 1, 27, 3, 2, 1, 2],
   [2, 955, 1, 27, 3, 2, 1, 2],
   [2, 497, 1, 10, 3, 2, 1, 2],
   [2, 501, 1, 10, 3, 2, 1, 2],
   [2, 505, 1, 10, 3, 2, 1, 2],
   [2, 957, 1, 27, 3, 2, 1, 2],
   [2, 959, 1, 27, 3, 2, 1, 2],
   [2, 961, 1, 27, 3, 2, 1, 2],
   [2, 963, 1, 5, 3, 2, 1, 2],
   [2, 965, 1, 5, 3, 2, 1, 2],
   [2, 967, 1, 5, 3, 2, 1, 2],
   [2, 969, 1, 5, 3, 2, 1, 2],
   [2, 971, 1, 5, 3, 2, 1, 2],
   [2, 973, 1, 5, 3, 2, 1, 2],
   [2, 975, 1, 5, 3, 2, 1, 2],
   [2, 977, 1, 5, 3, 2, 1, 2]]

/-- Where the row of each state starts in the packed table, from state 2 on. -/
def offsets : List Nat :=
  [0, 128, 256, 384, 491, 598, 705, 812, 919, 1026, 1133, 1240, 1347, 1451, 1555, 1659, 1763, 1867,
   1965, 2063, 2155, 2247, 2339, 2431, 2520, 2609, 2698, 2787, 2876, 2959, 3039, 3119, 3199, 3279,
   3359, 3439, 3519, 3599, 3679, 3756, 3833, 3910, 3987, 4064, 4141, 4218, 4295, 4372, 4449, 4526,
   4603, 4680, 4757, 4834, 4911, 4988, 5065, 5142, 5219, 5290, 5361, 5432, 5503, 5574, 5645, 5716,
   5787, 5858, 5929, 6000, 6071, 6142, 6213, 6284, 6355, 6426, 6497, 6568, 6639, 6710, 6781, 6852,
   6923, 6994, 7065, 7136, 7207, 7278, 7349, 7420, 7491, 7562, 7633, 7704, 7775, 7846, 7917, 7988,
   8059, 8130, 8201, 8272, 8343, 8414, 8485, 8556, 8627, 8698, 8733, 8804, 8875, 8946, 9017, 9088,
   9159, 9230, 9301, 9372, 9443, 9514, 9585, 9656, 9727, 9798, 9869, 9940, 9974, 10004, 10034,
   10066, 10096, 10126, 10170, 10199, 10228, 10257, 10286, 10315, 10344, 10373, 10402, 10431, 10460,
   10489, 10518, 10547, 10576, 10605, 10634, 10663, 10692, 10721, 10750, 10781, 10812, 10841, 10872,
   10901, 10930, 10959, 10988, 11017, 11058, 11087, 11115, 11143, 11171, 11199, 11227, 11255, 11283,
   11311, 11339, 11367, 11395, 11423, 11451, 11479, 11507, 11535, 11567, 11599, 11627, 11655, 11685,
   11715, 11743, 11771, 11799, 11827, 11855, 11886, 11913, 11940, 11967, 11994, 12023, 12052, 12079,
   12106, 12145, 12172, 12199, 12232, 12258, 12284, 12310, 12336, 12362, 12388, 12414, 12440, 12466,
   12492, 12518, 12544, 12570, 12596, 12622, 12648, 12674, 12700, 12726, 12752, 12778, 12804, 12830,
   12856, 12882, 12908, 12934, 12960, 12986, 13012, 13038, 13064, 13094, 13120, 13146, 13172, 13198,
   13224, 13250, 13278, 13306, 13334, 13362, 13388, 13414, 13442, 13468, 13494, 13520, 13546, 13572,
   13598, 13624, 13650, 13676, 13702, 13734, 13766, 13791, 13816, 13841, 13866, 13891, 13916, 13941,
   13966, 13991, 14016, 14041, 14066, 14091, 14116, 14141, 14166, 14195, 14220, 14245, 14272, 14297,
   14322, 14347, 14372, 14403, 14427, 14451, 14475, 14499, 14523, 14547, 14571, 14595, 14619, 14643,
   14667, 14691, 14715, 14739, 14763, 14787, 14811, 14835, 14859, 14883, 14909, 14935, 14959, 14985,
   15009, 15033, 15057, 15081, 15105, 15129, 15155, 15185, 15215, 15245, 15268, 15291, 15314, 15337,
   15360, 15383, 15406, 15429, 15452, 15475, 15498, 15521, 15544, 15567, 15590, 15613, 15636, 15659,
   15684, 15709, 15732, 15755, 15778, 15801, 15824, 15847, 15870, 15893, 15916, 15939, 15962, 15985,
   16008, 16031, 16054, 16077, 16100, 16123, 16146, 16169, 16192, 16214, 16236, 16258, 16280, 16304,
   16326, 16348, 16370, 16392, 16414, 16436, 16458, 16480, 16502, 16523, 16544, 16565, 16586, 16607,
   16628, 16649, 16670, 16691, 16712, 16733, 16754, 16775, 16796, 16817, 16838, 16859, 16880, 16901,
   16922, 16943, 16964, 16985, 17023, 17043, 17063, 17083, 17103, 17123, 17143, 17163, 17198, 17233,
   17256, 17274, 17292, 17312, 17330, 17348, 17365, 17382, 17399, 17416, 17433, 17450, 17467, 17484,
   17501, 17518, 17535, 17552, 17569, 17586, 17603, 17620, 17637, 17656, 17673, 17692, 17709, 17726,
   17743, 17766, 17783, 17803, 17829, 17855, 17870, 17885, 17908, 17925, 17940, 17955, 17974, 17988,
   18002, 18016, 18030, 18044, 18058, 18072, 18086, 18100, 18114, 18128, 18142, 18156, 18170, 18184,
   18198, 18212, 18226, 18240, 18254, 18268, 18282, 18296, 18310, 18324, 18338, 18352, 18366, 18380,
   18394, 18408, 18422, 18436, 18454, 18472, 18490, 18508, 18526, 18544, 18558, 18575, 18592, 18609,
   18626, 18643, 18660, 18677, 18694, 18711, 18728, 18745, 18762, 18777, 18794, 18811, 18828, 18845,
   18862, 18879, 18896, 18913, 18930, 18947, 18964, 18981, 18998, 19015, 19032, 19049, 19066, 19083,
   19100, 19117, 19134, 19151, 19168, 19185, 19202, 19216, 19230, 19244, 19258, 19272, 19286, 19300,
   19314, 19328, 19342, 19356, 19370, 19384, 19398, 19412, 19426, 19440, 19454, 19468, 19482, 19496,
   19510, 19524, 19538, 19552, 19566, 19580, 19594, 19604, 19614, 19624, 19638, 19652, 19666, 19680,
   19689, 19698, 19707, 19718, 19727, 19736, 19747, 19758, 19769, 19780, 19791, 19802, 19813, 19822,
   19831, 19840, 19849, 19858, 19867, 19876, 19885, 19894, 19903, 19912, 19921, 19930, 19939, 19948,
   19956, 19964, 19972, 19980, 19988, 19996, 20004, 20012, 20020, 20028, 20036, 20044, 20052, 20060,
   20068, 20076, 20084, 20092, 20100, 20108, 20116, 20124, 20132, 20140, 20148, 20156, 20164, 20172,
   20180, 20188, 20196, 20204, 20212, 20220, 20228, 20236, 20244, 20252, 20260, 20268, 20276, 20284,
   20292, 20300, 20308, 20316, 20324, 20332, 20340, 20348, 20356, 20364, 20372, 20380, 20388, 20396,
   20404, 20412, 20420, 20428, 20436, 20444, 20452, 20460, 20468, 20476, 20484, 20492, 20500, 20508,
   20516, 20524, 20532, 20540, 20548, 20556, 20564, 20572, 20580, 20588, 20596, 20604, 20612, 20620,
   20628, 20636, 20644, 20652, 20660, 20668, 20676, 20684]

end Numscript.Packed
