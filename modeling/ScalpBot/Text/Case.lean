import ScalpBot.Text.CodeRanges

/-!
# Upper and lower case

`upperCase` and `lowerCase` map every character by the Unicode case tables. Some characters have an
upper case of two or three characters, and a capital sigma at the end of a word has a lower case of
its own.
-/

namespace ScalpBot

/-- The upper case of the characters that have one of a single character. -/
def upperMap : CodeMap := CodeMap.ofRuns
  ["97 26 1 65 181 1 1 1486 224 23 1 65 248 7 1 65 255 1 1 242 257 24 2 3 305 1 1 465 307 3 2 ",
   "3 314 8 2 3 331 23 2 3 378 3 2 3 383 1 1 601 384 1 1 390 387 2 2 3 392 1 1 3 396 1 1 3 ",
   "402 1 1 3 405 1 1 194 409 1 1 3 410 1 1 326 414 1 1 260 417 3 2 3 424 1 1 3 429 1 1 3 432 ",
   "1 1 3 436 2 2 3 441 1 1 3 445 1 1 3 447 1 1 112 453 1 1 3 454 1 1 5 456 1 1 3 457 1 1 5 ",
   "459 1 1 3 460 1 1 5 462 8 2 3 477 1 1 159 479 9 2 3 498 1 1 3 499 1 1 5 501 1 1 3 505 20 ",
   "2 3 547 9 2 3 572 1 1 3 575 2 1 21630 578 1 1 3 583 5 2 3 592 1 1 21566 593 1 1 21560 594 ",
   "1 1 21564 595 1 1 421 596 1 1 413 598 2 1 411 601 1 1 405 603 1 1 407 604 1 1 84638 608 1 ",
   "1 411 609 1 1 84630 611 1 1 415 613 1 1 84560 614 1 1 84616 616 1 1 419 617 1 1 423 618 1 ",
   "1 84616 619 1 1 21486 620 1 1 84610 623 1 1 423 625 1 1 21498 626 1 1 427 629 1 1 429 637 ",
   "1 1 21454 640 1 1 437 642 1 1 84614 643 1 1 437 647 1 1 84564 648 1 1 437 649 1 1 139 650 ",
   "2 1 435 652 1 1 143 658 1 1 439 669 1 1 84522 670 1 1 84516 837 1 1 168 881 2 2 3 887 1 1 ",
   "3 891 3 1 260 940 1 1 77 941 3 1 75 945 17 1 65 962 1 1 63 963 9 1 65 972 1 1 129 973 2 1 ",
   "127 976 1 1 125 977 1 1 115 981 1 1 95 982 1 1 109 983 1 1 17 985 12 2 3 1008 1 1 173 ",
   "1009 1 1 161 1010 1 1 14 1011 1 1 233 1013 1 1 193 1016 1 1 3 1019 1 1 3 1072 32 1 65 ",
   "1104 16 1 161 1121 17 2 3 1163 27 2 3 1218 7 2 3 1231 1 1 31 1233 48 2 3 1377 38 1 97 ",
   "4304 43 1 6016 4349 3 1 6016 5112 6 1 17 7296 1 1 12509 7297 1 1 12507 7298 1 1 12489 ",
   "7299 2 1 12485 7301 1 1 12487 7302 1 1 12473 7303 1 1 12363 7304 1 1 70532 7545 1 1 70664 ",
   "7549 1 1 7628 7566 1 1 70768 7681 75 2 3 7835 1 1 119 7841 48 2 3 7936 8 1 16 7952 6 1 16 ",
   "7968 8 1 16 7984 8 1 16 8000 6 1 16 8017 4 2 16 8032 8 1 16 8048 2 1 148 8050 4 1 172 ",
   "8054 2 1 200 8056 2 1 256 8058 2 1 224 8060 2 1 252 8112 2 1 16 8126 1 1 14411 8144 2 1 ",
   "16 8160 2 1 16 8165 1 1 14 8526 1 1 57 8560 16 1 33 8580 1 1 3 9424 26 1 53 11312 48 1 97 ",
   "11361 1 1 3 11365 1 1 21591 11366 1 1 21585 11368 3 2 3 11379 1 1 3 11382 1 1 3 11393 50 ",
   "2 3 11500 2 2 3 11507 1 1 3 11520 38 1 14529 11559 1 1 14529 11565 1 1 14529 42561 23 2 3 ",
   "42625 14 2 3 42787 7 2 3 42803 31 2 3 42874 2 2 3 42879 5 2 3 42892 1 1 3 42897 2 2 3 ",
   "42900 1 1 96 42903 10 2 3 42933 8 2 3 42952 2 2 3 42961 1 1 3 42967 2 2 3 42998 1 1 3 ",
   "43859 1 1 1857 43888 80 1 77729 65345 26 1 65 66600 40 1 81 66776 36 1 81 66967 11 1 79 ",
   "66979 15 1 79 66995 7 1 79 67003 2 1 79 68800 51 1 129 71872 32 1 65 93792 32 1 65 125218 ",
   "34 1 69"]

/-- The lower case of the characters that have one of a single character. -/
def lowerMap : CodeMap := CodeMap.ofRuns
  ["65 26 1 64 192 23 1 64 216 7 1 64 256 24 2 2 306 3 2 2 313 8 2 2 330 23 2 2 376 1 1 243 ",
   "377 3 2 2 385 1 1 420 386 2 2 2 390 1 1 412 391 1 1 2 393 2 1 410 395 1 1 2 398 1 1 158 ",
   "399 1 1 404 400 1 1 406 401 1 1 2 403 1 1 410 404 1 1 414 406 1 1 422 407 1 1 418 408 1 1 ",
   "2 412 1 1 422 413 1 1 426 415 1 1 428 416 3 2 2 422 1 1 436 423 1 1 2 425 1 1 436 428 1 1 ",
   "2 430 1 1 436 431 1 1 2 433 2 1 434 435 2 2 2 439 1 1 438 440 1 1 2 444 1 1 2 452 1 1 4 ",
   "453 1 1 2 455 1 1 4 456 1 1 2 458 1 1 4 459 9 2 2 478 9 2 2 497 1 1 4 498 2 2 2 502 1 1 ",
   "195 503 1 1 113 504 20 2 2 544 1 1 261 546 9 2 2 570 1 1 21590 571 1 1 2 573 1 1 327 574 ",
   "1 1 21584 577 1 1 2 579 1 1 391 580 1 1 138 581 1 1 142 582 5 2 2 880 2 2 2 886 1 1 2 895 ",
   "1 1 232 902 1 1 76 904 3 1 74 908 1 1 128 910 2 1 126 913 17 1 64 931 9 1 64 975 1 1 16 ",
   "984 12 2 2 1012 1 1 121 1015 1 1 2 1017 1 1 15 1018 1 1 2 1021 3 1 261 1024 16 1 160 1040 ",
   "32 1 64 1120 17 2 2 1162 27 2 2 1216 1 1 30 1217 7 2 2 1232 48 2 2 1329 38 1 96 4256 38 1 ",
   "14528 4295 1 1 14528 4301 1 1 14528 5024 80 1 77728 5104 6 1 16 7312 43 1 6017 7357 3 1 ",
   "6017 7680 75 2 2 7838 1 1 15231 7840 48 2 2 7944 8 1 17 7960 6 1 17 7976 8 1 17 7992 8 1 ",
   "17 8008 6 1 17 8025 4 2 17 8040 8 1 17 8072 8 1 17 8088 8 1 17 8104 8 1 17 8120 2 1 17 ",
   "8122 2 1 149 8124 1 1 19 8136 4 1 173 8140 1 1 19 8152 2 1 17 8154 2 1 201 8168 2 1 17 ",
   "8170 2 1 225 8172 1 1 15 8184 2 1 257 8186 2 1 253 8188 1 1 19 8486 1 1 15035 8490 1 1 ",
   "16767 8491 1 1 16525 8498 1 1 56 8544 16 1 32 8579 1 1 2 9398 26 1 52 11264 48 1 96 11360 ",
   "1 1 2 11362 1 1 21487 11363 1 1 7629 11364 1 1 21455 11367 3 2 2 11373 1 1 21561 11374 1 ",
   "1 21499 11375 1 1 21567 11376 1 1 21565 11378 1 1 2 11381 1 1 2 11390 2 1 21631 11392 50 ",
   "2 2 11499 2 2 2 11506 1 1 2 42560 23 2 2 42624 14 2 2 42786 7 2 2 42802 31 2 2 42873 2 2 ",
   "2 42877 1 1 70665 42878 5 2 2 42891 1 1 2 42893 1 1 84561 42896 2 2 2 42902 10 2 2 42922 ",
   "1 1 84617 42923 1 1 84639 42924 1 1 84631 42925 1 1 84611 42926 1 1 84617 42928 1 1 84517 ",
   "42929 1 1 84565 42930 1 1 84523 42931 1 1 1856 42932 8 2 2 42948 1 1 97 42949 1 1 84615 ",
   "42950 1 1 70769 42951 2 2 2 42960 1 1 2 42966 2 2 2 42997 1 1 2 65313 26 1 64 66560 40 1 ",
   "80 66736 36 1 80 66928 11 1 78 66940 15 1 78 66956 7 1 78 66964 2 1 78 68736 51 1 128 ",
   "71840 32 1 64 93760 32 1 64 125184 34 1 68"]

/-- The characters whose upper case has several characters. -/
def longUpperMap : List (Nat × List Char) := codeRows
  ["223 2 83 83 329 2 700 78 496 2 74 780 912 3 921 776 769 944 3 933 776 769 1415 2 1333 ",
   "1362 7830 2 72 817 7831 2 84 776 7832 2 87 778 7833 2 89 778 7834 2 65 702 8016 2 933 787 ",
   "8018 3 933 787 768 8020 3 933 787 769 8022 3 933 787 834 8064 2 7944 921 8065 2 7945 921 ",
   "8066 2 7946 921 8067 2 7947 921 8068 2 7948 921 8069 2 7949 921 8070 2 7950 921 8071 2 ",
   "7951 921 8072 2 7944 921 8073 2 7945 921 8074 2 7946 921 8075 2 7947 921 8076 2 7948 921 ",
   "8077 2 7949 921 8078 2 7950 921 8079 2 7951 921 8080 2 7976 921 8081 2 7977 921 8082 2 ",
   "7978 921 8083 2 7979 921 8084 2 7980 921 8085 2 7981 921 8086 2 7982 921 8087 2 7983 921 ",
   "8088 2 7976 921 8089 2 7977 921 8090 2 7978 921 8091 2 7979 921 8092 2 7980 921 8093 2 ",
   "7981 921 8094 2 7982 921 8095 2 7983 921 8096 2 8040 921 8097 2 8041 921 8098 2 8042 921 ",
   "8099 2 8043 921 8100 2 8044 921 8101 2 8045 921 8102 2 8046 921 8103 2 8047 921 8104 2 ",
   "8040 921 8105 2 8041 921 8106 2 8042 921 8107 2 8043 921 8108 2 8044 921 8109 2 8045 921 ",
   "8110 2 8046 921 8111 2 8047 921 8114 2 8122 921 8115 2 913 921 8116 2 902 921 8118 2 913 ",
   "834 8119 3 913 834 921 8124 2 913 921 8130 2 8138 921 8131 2 919 921 8132 2 905 921 8134 ",
   "2 919 834 8135 3 919 834 921 8140 2 919 921 8146 3 921 776 768 8147 3 921 776 769 8150 2 ",
   "921 834 8151 3 921 776 834 8162 3 933 776 768 8163 3 933 776 769 8164 2 929 787 8166 2 ",
   "933 834 8167 3 933 776 834 8178 2 8186 921 8179 2 937 921 8180 2 911 921 8182 2 937 834 ",
   "8183 3 937 834 921 8188 2 937 921 64256 2 70 70 64257 2 70 73 64258 2 70 76 64259 3 70 70 ",
   "73 64260 3 70 70 76 64261 2 83 84 64262 2 83 84 64275 2 1348 1350 64276 2 1348 1333 64277 ",
   "2 1348 1339 64278 2 1358 1350 64279 2 1348 1341"]

/-- The upper case of a character. -/
def upperChar (c : Char) : List Char :=
  if c.toNat < 128 then [c.toUpper]
  else
    match longUpperMap.lookup c.toNat with
    | some cs => cs
    | none => [upperMap.apply c]

/-- The text in upper case. -/
def upperCase (text : String) : String := String.ofList (text.toList.flatMap upperChar)

/-- Code points with the property Cased. -/
def cased : CodeRanges := CodeRanges.ofLengths
  ["65 26 6 26 47 1 10 1 4 1 5 23 1 31 1 195 1 4 4 208 1 36 7 2 30 5 96 1 42 4 2 2 2 4 1 1 6 ",
   "1 1 3 1 1 1 20 1 83 1 139 8 166 1 38 9 41 2839 38 1 1 5 1 2 43 2 3 672 86 2 6 2178 9 7 43 ",
   "2 3 64 192 64 278 2 6 2 38 2 6 2 8 1 1 1 1 1 1 1 31 2 53 1 7 1 1 3 3 1 7 3 4 2 6 4 13 5 3 ",
   "1 7 116 1 13 1 16 13 101 1 4 1 2 10 1 1 3 5 6 1 1 1 1 1 1 4 1 6 4 1 2 4 5 5 4 1 17 32 3 2 ",
   "817 52 1814 229 6 4 3 2 12 38 1 1 5 1 30994 46 18 30 132 102 3 4 1 59 5 2 1 1 1 5 27 2 1 ",
   "3 821 43 1 13 7 80 20288 7 12 5 1033 26 6 26 1189 80 96 36 4 36 116 11 1 15 1 7 1 2 1 11 ",
   "1 15 1 7 1 2 451 1 2 3 1 42 1 9 1221 51 13 51 2989 64 21856 64 25984 85 1 71 1 2 2 1 2 2 ",
   "2 4 1 12 1 1 1 7 1 65 1 4 2 8 1 7 1 28 1 4 1 5 1 1 3 7 1 340 2 25 1 25 1 31 1 25 1 31 1 ",
   "25 1 31 1 25 1 31 1 25 1 8 1844 10 1 20 2529 68 2028 26 6 26 6 26"]

/-- Code points with the property Case_Ignorable. -/
def caseIgnorable : CodeRanges := CodeRanges.ofLengths
  ["39 1 6 1 11 1 35 1 1 1 71 1 4 1 1 1 4 1 2 2 503 192 4 2 4 1 9 2 1 1 251 7 207 1 5 1 49 45 ",
   "1 1 1 2 1 2 1 1 44 1 11 6 10 11 1 1 35 1 10 21 16 1 101 8 1 10 1 4 33 1 1 1 30 27 91 11 ",
   "58 11 4 1 2 1 24 24 43 3 44 1 7 2 6 8 41 58 55 1 1 1 4 8 4 1 3 7 10 2 13 1 15 1 58 1 4 4 ",
   "8 1 20 2 26 1 2 2 57 1 4 2 4 2 2 3 3 1 30 2 3 1 11 2 57 1 4 5 1 2 4 1 20 2 22 6 1 1 58 1 ",
   "2 1 1 4 8 1 7 2 11 2 30 1 61 1 12 1 50 1 3 1 55 1 1 3 5 3 1 4 7 2 11 2 29 1 58 1 2 1 6 1 ",
   "5 2 20 2 28 2 57 2 4 4 8 1 20 2 29 1 72 1 7 3 1 1 90 1 2 7 11 9 98 1 2 9 9 1 1 6 74 2 27 ",
   "1 1 1 1 1 55 14 1 5 1 2 5 11 1 36 9 1 102 4 1 6 1 2 2 2 25 2 4 3 16 4 13 1 2 2 6 1 15 1 ",
   "94 1 608 3 946 3 29 2 30 2 30 2 64 2 1 7 8 1 2 11 3 1 5 1 45 5 51 1 65 2 34 1 118 3 4 2 9 ",
   "1 6 3 219 2 2 1 58 1 1 7 1 1 1 1 2 8 6 10 2 1 39 1 8 31 49 4 48 1 1 5 1 1 5 1 40 9 12 2 ",
   "32 4 2 2 1 3 56 1 1 2 3 1 1 3 58 8 2 2 64 6 82 3 1 13 1 7 4 1 6 1 3 2 50 63 13 1 34 101 ",
   "445 1 1 3 11 3 13 3 13 3 13 2 12 5 8 2 10 1 2 1 2 5 49 5 1 10 1 1 13 1 16 13 51 33 2955 2 ",
   "113 3 125 1 15 1 96 32 47 1 469 1 36 4 3 5 5 1 93 6 93 3 28438 1 1250 6 270 1 98 4 1 10 1 ",
   "1 28 4 80 2 14 34 78 1 23 3 103 3 3 2 8 1 3 1 4 1 25 2 5 1 151 2 26 18 13 1 38 8 25 11 46 ",
   "3 48 1 2 4 2 2 17 1 21 2 66 6 2 2 2 2 12 1 8 1 35 1 11 1 51 1 1 3 2 2 5 2 1 1 27 1 14 2 5 ",
   "2 1 1 100 5 9 3 121 1 2 1 4 1 20272 1 147 17 573 16 3 1 12 16 34 1 2 1 169 1 7 1 6 1 11 1 ",
   "35 1 1 1 47 1 45 2 67 1 21 3 513 1 226 1 149 5 1029 6 1 42 1 9 582 3 1 2 5 4 40 3 4 1 165 ",
   "2 573 4 387 2 153 11 49 4 123 1 54 15 41 1 2 2 10 3 49 4 2 2 2 1 4 1 10 1 50 3 36 5 1 8 ",
   "62 1 12 2 52 9 10 4 2 1 95 3 2 1 1 2 6 1 160 1 3 8 21 2 57 2 3 1 37 7 3 5 195 8 2 3 1 1 ",
   "23 1 84 6 1 1 4 2 1 2 238 4 6 2 1 2 27 2 85 8 2 1 1 2 106 1 1 1 2 6 1 1 101 3 2 4 1 5 259 ",
   "9 1 2 256 2 1 1 4 1 144 4 2 2 4 1 32 10 40 6 2 4 8 1 9 6 2 3 46 13 1 2 406 7 1 6 1 1 82 ",
   "22 2 7 1 2 1 2 122 6 3 1 1 2 1 7 1 1 72 2 3 1 1 1 347 2 5435 9 14007 5 59 7 9 4 1035 1 63 ",
   "17 64 2 1 2 16395 4 1 7 1 2 3230 2 1 4 4700 46 2 23 544 3 9 16 2 7 30 4 148 3 1979 55 4 ",
   "50 8 1 14 1 22 5 1 15 1360 7 1 17 2 7 1 2 1 5 261 14 368 1 61 4 1504 7 109 8 2735 5 ",
   "789505 1 30 96 128 240"]

/-- Whether the nearest character that is not ignored in matters of case has a case. -/
def meetsCased (cs : List Char) : Bool :=
  match cs.dropWhile fun c => caseIgnorable.contains c.toNat with
  | c :: _ => cased.contains c.toNat
  | [] => false

/-- The lower case of a character, given what stands before it (nearest first) and after it. -/
def lowerChar (before : List Char) (c : Char) (after : List Char) : List Char :=
  if c.toNat < 128 then [c.toLower]
  else if c = 'İ' then ['i', '\u0307']
  else if c = 'Σ' then (if meetsCased before && !meetsCased after then ['ς'] else ['σ'])
  else [lowerMap.apply c]

/-- The characters in lower case, given what stands before them. -/
def lowerChars (before : List Char) : List Char → List Char
  | [] => []
  | c :: rest => lowerChar before c rest ++ lowerChars (c :: before) rest

/-- The text in lower case. -/
def lowerCase (text : String) : String := String.ofList (lowerChars [] text.toList)

end ScalpBot
