import Numscript.Automaton.Slots

/-!
# The states of the parsing automaton

The states by number, in pages of sixty-four.
-/
namespace Numscript.Automaton

/-- The states from 0 to 63. -/
def page0 : List State :=
  [⟨0, 0, [], [], []⟩,
   ⟨130, 1,
     [(.kwVars, 592), (.kwSend, 40), (.kwSave, 41), (.kwOverdraft, 602), (.identifier, 593)],
     [(⟨.program, 0, .plain⟩, [.endOfText])],
     [(.program, 611), (.varsDeclaration, 400), (.statement, 455), (.sendStatement, 451),
      (.saveStatement, 452), (.fnCallStatement, 453), (.functionCall, 454), (.statements, 408)]⟩,
   ⟨155, 2,
     firstSource.shifts [(.lbrace, 3), (.rbrace, 648), (.kwOneof, 645), (.kwMax, 115),
      (.kwRemaining, 559)], [],
     firstSource.gotos [(.valueExpr, 133), (.source, 355), (.srcAccountUnboundedOverdraft, 347),
      (.srcAccountBoundedOverdraft, 348), (.srcAccount, 349), (.srcAllotment, 350),
      (.srcInorder, 351), (.srcOneof, 352), (.srcCapped, 353), (.allotmentClauseSrc, 385),
      (.allotment, 649), (.portionedAllotment, 557), (.remainingAllotment, 558), (.srcClauses, 25),
      (.sources, 5)]⟩,
   ⟨155, 2,
     firstSource.shifts [(.lbrace, 3), (.rbrace, 354), (.kwOneof, 645), (.kwMax, 115),
      (.kwRemaining, 559)], [],
     firstSource.gotos [(.valueExpr, 133), (.source, 355), (.srcAccountUnboundedOverdraft, 347),
      (.srcAccountBoundedOverdraft, 348), (.srcAccount, 349), (.srcAllotment, 350),
      (.srcInorder, 351), (.srcOneof, 352), (.srcCapped, 353), (.allotmentClauseSrc, 385),
      (.allotment, 649), (.portionedAllotment, 557), (.remainingAllotment, 558), (.srcClauses, 26),
      (.sources, 6)]⟩,
   ⟨155, 2,
     firstSource.shifts [(.lbrace, 3), (.rbrace, 384), (.kwOneof, 645), (.kwMax, 115),
      (.kwRemaining, 559)], [],
     firstSource.gotos [(.valueExpr, 133), (.source, 355), (.srcAccountUnboundedOverdraft, 347),
      (.srcAccountBoundedOverdraft, 348), (.srcAccount, 349), (.srcAllotment, 350),
      (.srcInorder, 351), (.srcOneof, 352), (.srcCapped, 353), (.allotmentClauseSrc, 385),
      (.allotment, 649), (.portionedAllotment, 557), (.remainingAllotment, 558), (.srcClauses, 27),
      (.sources, 7)]⟩,
   ⟨180, 5,
     inOrderSource.shifts [(.lbrace, 3), (.rbrace, 657), (.kwOneof, 645), (.kwMax, 115)], [],
     inOrderSource.gotos [(.valueExpr, 163), (.source, 358), (.srcAccountUnboundedOverdraft, 347),
      (.srcAccountBoundedOverdraft, 348), (.srcAccount, 349), (.srcAllotment, 350),
      (.srcInorder, 351), (.srcOneof, 352), (.srcCapped, 353)]⟩,
   ⟨180, 5,
     inOrderSource.shifts [(.lbrace, 3), (.rbrace, 357), (.kwOneof, 645), (.kwMax, 115)], [],
     inOrderSource.gotos [(.valueExpr, 163), (.source, 358), (.srcAccountUnboundedOverdraft, 347),
      (.srcAccountBoundedOverdraft, 348), (.srcAccount, 349), (.srcAllotment, 350),
      (.srcInorder, 351), (.srcOneof, 352), (.srcCapped, 353)]⟩,
   ⟨180, 5,
     inOrderSource.shifts [(.lbrace, 3), (.rbrace, 388), (.kwOneof, 645), (.kwMax, 115)], [],
     inOrderSource.gotos [(.valueExpr, 163), (.source, 358), (.srcAccountUnboundedOverdraft, 347),
      (.srcAccountBoundedOverdraft, 348), (.srcAccount, 349), (.srcAllotment, 350),
      (.srcInorder, 351), (.srcOneof, 352), (.srcCapped, 353)]⟩,
   -- 8
   ⟨181, 8,
     inOrderSource.shifts [(.lbrace, 3), (.kwOneof, 645), (.kwMax, 115)], [],
     inOrderSource.gotos [(.valueExpr, 163), (.source, 355), (.srcAccountUnboundedOverdraft, 347),
      (.srcAccountBoundedOverdraft, 348), (.srcAccount, 349), (.srcAllotment, 350),
      (.srcInorder, 351), (.srcOneof, 352), (.srcCapped, 353), (.sources, 11)]⟩,
   ⟨181, 8,
     inOrderSource.shifts [(.lbrace, 3), (.kwOneof, 645), (.kwMax, 115)], [],
     inOrderSource.gotos [(.valueExpr, 163), (.source, 355), (.srcAccountUnboundedOverdraft, 347),
      (.srcAccountBoundedOverdraft, 348), (.srcAccount, 349), (.srcAllotment, 350),
      (.srcInorder, 351), (.srcOneof, 352), (.srcCapped, 353), (.sources, 12)]⟩,
   ⟨181, 8,
     inOrderSource.shifts [(.lbrace, 3), (.kwOneof, 645), (.kwMax, 115)], [],
     inOrderSource.gotos [(.valueExpr, 163), (.source, 355), (.srcAccountUnboundedOverdraft, 347),
      (.srcAccountBoundedOverdraft, 348), (.srcAccount, 349), (.srcAllotment, 350),
      (.srcInorder, 351), (.srcOneof, 352), (.srcCapped, 353), (.sources, 13)]⟩,
   ⟨180, 11,
     inOrderSource.shifts [(.lbrace, 3), (.rbrace, 671), (.kwOneof, 645), (.kwMax, 115)], [],
     inOrderSource.gotos [(.valueExpr, 163), (.source, 358), (.srcAccountUnboundedOverdraft, 347),
      (.srcAccountBoundedOverdraft, 348), (.srcAccount, 349), (.srcAllotment, 350),
      (.srcInorder, 351), (.srcOneof, 352), (.srcCapped, 353)]⟩,
   ⟨180, 11,
     inOrderSource.shifts [(.lbrace, 3), (.rbrace, 360), (.kwOneof, 645), (.kwMax, 115)], [],
     inOrderSource.gotos [(.valueExpr, 163), (.source, 358), (.srcAccountUnboundedOverdraft, 347),
      (.srcAccountBoundedOverdraft, 348), (.srcAccount, 349), (.srcAllotment, 350),
      (.srcInorder, 351), (.srcOneof, 352), (.srcCapped, 353)]⟩,
   ⟨180, 11,
     inOrderSource.shifts [(.lbrace, 3), (.rbrace, 391), (.kwOneof, 645), (.kwMax, 115)], [],
     inOrderSource.gotos [(.valueExpr, 163), (.source, 358), (.srcAccountUnboundedOverdraft, 347),
      (.srcAccountBoundedOverdraft, 348), (.srcAccount, 349), (.srcAllotment, 350),
      (.srcInorder, 351), (.srcOneof, 352), (.srcCapped, 353)]⟩,
   ⟨181, 14,
     braced.shifts [(.lbrace, 2), (.kwOneof, 644), (.kwMax, 114)], [],
     braced.gotos [(.valueExpr, 442), (.source, 636), (.srcAccountUnboundedOverdraft, 637),
      (.srcAccountBoundedOverdraft, 638), (.srcAccount, 639), (.srcAllotment, 640),
      (.srcInorder, 641), (.srcOneof, 642), (.srcCapped, 643)]⟩,
   ⟨181, 15,
     clauseSource.shifts [(.lbrace, 4), (.kwOneof, 646), (.kwMax, 116)], [],
     clauseSource.gotos [(.valueExpr, 201), (.source, 390), (.srcAccountUnboundedOverdraft, 377),
      (.srcAccountBoundedOverdraft, 378), (.srcAccount, 379), (.srcAllotment, 380),
      (.srcInorder, 381), (.srcOneof, 382), (.srcCapped, 383)]⟩,
   -- 16
   ⟨181, 16,
     braced.shifts [(.lbrace, 2), (.kwOneof, 644), (.kwMax, 114)], [],
     braced.gotos [(.valueExpr, 442), (.source, 672), (.srcAccountUnboundedOverdraft, 637),
      (.srcAccountBoundedOverdraft, 638), (.srcAccount, 639), (.srcAllotment, 640),
      (.srcInorder, 641), (.srcOneof, 642), (.srcCapped, 643)]⟩,
   ⟨181, 16,
     inOrderSource.shifts [(.lbrace, 3), (.kwOneof, 645), (.kwMax, 115)], [],
     inOrderSource.gotos [(.valueExpr, 163), (.source, 361), (.srcAccountUnboundedOverdraft, 347),
      (.srcAccountBoundedOverdraft, 348), (.srcAccount, 349), (.srcAllotment, 350),
      (.srcInorder, 351), (.srcOneof, 352), (.srcCapped, 353)]⟩,
   ⟨181, 16,
     clauseSource.shifts [(.lbrace, 4), (.kwOneof, 646), (.kwMax, 116)], [],
     clauseSource.gotos [(.valueExpr, 201), (.source, 392), (.srcAccountUnboundedOverdraft, 377),
      (.srcAccountBoundedOverdraft, 378), (.srcAccount, 379), (.srcAllotment, 380),
      (.srcInorder, 381), (.srcOneof, 382), (.srcCapped, 383)]⟩,
   ⟨182, 19,
     braced.shifts [(.kwMax, 120), (.kwRemaining, 516)], [],
     braced.gotos [(.valueExpr, 450), (.allotmentClauseDest, 393),
      (.destinationInOrderClause, 581), (.allotment, 518), (.portionedAllotment, 557),
      (.remainingAllotment, 558), (.destClauses, 28), (.inOrderClauses, 560)]⟩,
   ⟨182, 19,
     braced.shifts [(.kwMax, 120), (.kwRemaining, 517)], [],
     braced.gotos [(.valueExpr, 450), (.allotmentClauseDest, 393),
      (.destinationInOrderClause, 581), (.allotment, 518), (.portionedAllotment, 557),
      (.remainingAllotment, 558), (.destClauses, 29), (.inOrderClauses, 561)]⟩,
   ⟨183, 21,
     enclosed.shifts [(.lbrace, 19), (.kwOneof, 659)], [],
     enclosed.gotos [(.valueExpr, 488), (.destination, 658), (.destAccount, 368),
      (.destAllotment, 369), (.destInorder, 370), (.destOneof, 371)]⟩,
   ⟨183, 22,
     enclosed.shifts [(.lbrace, 19), (.kwOneof, 659)], [],
     enclosed.gotos [(.valueExpr, 488), (.destination, 399), (.destAccount, 368),
      (.destAllotment, 369), (.destInorder, 370), (.destOneof, 371)]⟩,
   ⟨183, 22,
     clauseValue.shifts [(.lbrace, 19), (.kwOneof, 659)], [],
     clauseValue.gotos [(.valueExpr, 319), (.destination, 399), (.destAccount, 368),
      (.destAllotment, 369), (.destInorder, 370), (.destOneof, 371)]⟩,
   -- 24
   ⟨183, 22,
     braced.shifts [(.lbrace, 20), (.kwOneof, 660)], [],
     braced.gotos [(.valueExpr, 489), (.destination, 587), (.destAccount, 577),
      (.destAllotment, 578), (.destInorder, 579), (.destOneof, 580)]⟩,
   ⟨184, 25,
     braced.shifts [(.rbrace, 656), (.kwRemaining, 559)], [],
     braced.gotos [(.valueExpr, 450), (.allotmentClauseSrc, 387), (.allotment, 649),
      (.portionedAllotment, 557), (.remainingAllotment, 558)]⟩,
   ⟨184, 25,
     braced.shifts [(.rbrace, 356), (.kwRemaining, 559)], [],
     braced.gotos [(.valueExpr, 450), (.allotmentClauseSrc, 387), (.allotment, 649),
      (.portionedAllotment, 557), (.remainingAllotment, 558)]⟩,
   ⟨184, 25,
     braced.shifts [(.rbrace, 386), (.kwRemaining, 559)], [],
     braced.gotos [(.valueExpr, 450), (.allotmentClauseSrc, 387), (.allotment, 649),
      (.portionedAllotment, 557), (.remainingAllotment, 558)]⟩,
   ⟨184, 28,
     braced.shifts [(.rbrace, 372), (.kwRemaining, 559)], [],
     braced.gotos [(.valueExpr, 450), (.allotmentClauseDest, 395), (.allotment, 518),
      (.portionedAllotment, 557), (.remainingAllotment, 558)]⟩,
   ⟨184, 28,
     braced.shifts [(.rbrace, 582), (.kwRemaining, 559)], [],
     braced.gotos [(.valueExpr, 450), (.allotmentClauseDest, 395), (.allotment, 518),
      (.portionedAllotment, 557), (.remainingAllotment, 558)]⟩,
   ⟨185, 30,
     enclosed.shifts [(.star, 635), (.plus, 72), (.minus, 82), (.slash, 92)], [],
     enclosed.gotos [(.valueExpr, 504)]⟩,
   ⟨187, 31,
     enclosed.shifts [(.plus, 72), (.minus, 82), (.slash, 92)], [],
     enclosed.gotos [(.valueExpr, 505)]⟩,
   -- 32
   ⟨187, 31,
     enclosed.shifts [(.plus, 72), (.minus, 82), (.slash, 92)], [],
     enclosed.gotos [(.valueExpr, 504)]⟩,
   ⟨187, 31,
     enclosed.shifts [(.plus, 72), (.minus, 82), (.slash, 92)], [],
     enclosed.gotos [(.valueExpr, 506)]⟩,
   ⟨187, 31,
     enclosed.shifts [(.plus, 72), (.minus, 82), (.slash, 92)], [],
     enclosed.gotos [(.valueExpr, 507)]⟩,
   ⟨187, 31,
     enclosed.shifts [(.plus, 72), (.minus, 82), (.slash, 92)], [],
     enclosed.gotos [(.valueExpr, 508)]⟩,
   ⟨187, 31,
     enclosed.shifts [(.plus, 72), (.minus, 82), (.slash, 92)], [],
     enclosed.gotos [(.valueExpr, 509)]⟩,
   ⟨187, 31,
     enclosed.shifts [(.plus, 72), (.minus, 82), (.slash, 92)], [],
     enclosed.gotos [(.valueExpr, 510)]⟩,
   ⟨187, 31,
     enclosed.shifts [(.plus, 72), (.minus, 82), (.slash, 92)], [],
     enclosed.gotos [(.valueExpr, 511)]⟩,
   ⟨187, 31,
     enclosed.shifts [(.plus, 72), (.minus, 82), (.slash, 92)], [],
     enclosed.gotos [(.valueExpr, 512)]⟩,
   -- 40
   ⟨188, 40,
     ({ enclosed with lbracket := 60 } : ValueSlot).shifts [], [],
     ({ enclosed with lbracket := 60 } : ValueSlot).gotos [(.sentValue, 612), (.sentAllLit, 564),
      (.valueExpr, 492)]⟩,
   ⟨188, 41,
     ({ braced with lbracket := 60 } : ValueSlot).shifts [], [],
     ({ braced with lbracket := 60 } : ValueSlot).gotos [(.sentValue, 613), (.sentAllLit, 564),
      (.valueExpr, 493)]⟩,
   ⟨189, 42,
     enclosed.shifts [(.rparen, 363)], [],
     enclosed.gotos [(.valueExpr, 446), (.functionCallArgs, 616)]⟩,
   ⟨189, 42,
     enclosed.shifts [(.rparen, 401)], [],
     enclosed.gotos [(.valueExpr, 446), (.functionCallArgs, 617)]⟩,
   ⟨189, 42,
     enclosed.shifts [(.rparen, 338)], [],
     enclosed.gotos [(.valueExpr, 446), (.functionCallArgs, 618)]⟩,
   ⟨189, 42,
     enclosed.shifts [(.rparen, 474)], [],
     enclosed.gotos [(.valueExpr, 446), (.functionCallArgs, 619)]⟩,
   ⟨189, 42,
     enclosed.shifts [(.rparen, 152)], [],
     enclosed.gotos [(.valueExpr, 446), (.functionCallArgs, 620)]⟩,
   ⟨189, 42,
     enclosed.shifts [(.rparen, 183)], [],
     enclosed.gotos [(.valueExpr, 446), (.functionCallArgs, 621)]⟩,
   -- 48
   ⟨189, 42,
     enclosed.shifts [(.rparen, 240)], [],
     enclosed.gotos [(.valueExpr, 446), (.functionCallArgs, 622)]⟩,
   ⟨189, 42,
     enclosed.shifts [(.rparen, 306)], [],
     enclosed.gotos [(.valueExpr, 446), (.functionCallArgs, 623)]⟩,
   ⟨189, 42,
     enclosed.shifts [(.rparen, 241)], [],
     enclosed.gotos [(.valueExpr, 446), (.functionCallArgs, 624)]⟩,
   ⟨189, 51,
     enclosed.shifts [(.rparen, 364)], [],
     enclosed.gotos [(.valueExpr, 446), (.functionCallArgs, 625)]⟩,
   ⟨189, 51,
     enclosed.shifts [(.rparen, 402)], [],
     enclosed.gotos [(.valueExpr, 446), (.functionCallArgs, 626)]⟩,
   ⟨189, 51,
     enclosed.shifts [(.rparen, 339)], [],
     enclosed.gotos [(.valueExpr, 446), (.functionCallArgs, 627)]⟩,
   ⟨189, 51,
     enclosed.shifts [(.rparen, 475)], [],
     enclosed.gotos [(.valueExpr, 446), (.functionCallArgs, 628)]⟩,
   ⟨189, 51,
     enclosed.shifts [(.rparen, 153)], [],
     enclosed.gotos [(.valueExpr, 446), (.functionCallArgs, 629)]⟩,
   -- 56
   ⟨189, 51,
     enclosed.shifts [(.rparen, 184)], [],
     enclosed.gotos [(.valueExpr, 446), (.functionCallArgs, 630)]⟩,
   ⟨189, 51,
     enclosed.shifts [(.rparen, 242)], [],
     enclosed.gotos [(.valueExpr, 446), (.functionCallArgs, 631)]⟩,
   ⟨189, 51,
     enclosed.shifts [(.rparen, 307)], [],
     enclosed.gotos [(.valueExpr, 446), (.functionCallArgs, 632)]⟩,
   ⟨189, 51,
     enclosed.shifts [(.rparen, 243)], [],
     enclosed.gotos [(.valueExpr, 446), (.functionCallArgs, 633)]⟩,
   ⟨188, 60, bracketedAsset.shifts [], [], bracketedAsset.gotos [(.valueExpr, 30)]⟩,
   ⟨188, 61, enclosed.shifts [], [], enclosed.gotos [(.valueExpr, 494)]⟩,
   ⟨188, 61, enclosed.shifts [], [], enclosed.gotos [(.valueExpr, 495)]⟩,
   ⟨188, 61, enclosed.shifts [], [], enclosed.gotos [(.valueExpr, 496)]⟩]

/-- The states from 64 to 127. -/
def page1 : List State :=
  [⟨188, 61, enclosed.shifts [], [], enclosed.gotos [(.valueExpr, 497)]⟩,
   ⟨188, 61, enclosed.shifts [], [], enclosed.gotos [(.valueExpr, 498)]⟩,
   ⟨188, 61, enclosed.shifts [], [], enclosed.gotos [(.valueExpr, 499)]⟩,
   ⟨188, 61, enclosed.shifts [], [], enclosed.gotos [(.valueExpr, 500)]⟩,
   ⟨188, 61, enclosed.shifts [], [], enclosed.gotos [(.valueExpr, 501)]⟩,
   ⟨188, 61, enclosed.shifts [], [], enclosed.gotos [(.valueExpr, 502)]⟩,
   ⟨188, 70, enclosed.shifts [], [], enclosed.gotos [(.valueExpr, 432)]⟩,
   ⟨188, 70, braced.shifts [], [], braced.gotos [(.valueExpr, 403)]⟩,
   -- 72
   ⟨188, 70, bracketedAsset.shifts [], [], bracketedAsset.gotos [(.valueExpr, 340)]⟩,
   ⟨188, 70, saveTarget.shifts [], [], saveTarget.gotos [(.valueExpr, 433)]⟩,
   ⟨188, 70, varOrigin.shifts [], [], varOrigin.gotos [(.valueExpr, 477)]⟩,
   ⟨188, 70, firstSource.shifts [], [], firstSource.gotos [(.valueExpr, 154)]⟩,
   ⟨188, 70, inOrderSource.shifts [], [], inOrderSource.gotos [(.valueExpr, 185)]⟩,
   ⟨188, 70, clauseSource.shifts [], [], clauseSource.gotos [(.valueExpr, 244)]⟩,
   ⟨188, 70, clauseValue.shifts [], [], clauseValue.gotos [(.valueExpr, 308)]⟩,
   ⟨188, 70, sourceLimit.shifts [], [], sourceLimit.gotos [(.valueExpr, 245)]⟩,
   -- 80
   ⟨188, 80, enclosed.shifts [], [], enclosed.gotos [(.valueExpr, 434)]⟩,
   ⟨188, 80, braced.shifts [], [], braced.gotos [(.valueExpr, 404)]⟩,
   ⟨188, 80, bracketedAsset.shifts [], [], bracketedAsset.gotos [(.valueExpr, 341)]⟩,
   ⟨188, 80, saveTarget.shifts [], [], saveTarget.gotos [(.valueExpr, 435)]⟩,
   ⟨188, 80, varOrigin.shifts [], [], varOrigin.gotos [(.valueExpr, 478)]⟩,
   ⟨188, 80, firstSource.shifts [], [], firstSource.gotos [(.valueExpr, 155)]⟩,
   ⟨188, 80, inOrderSource.shifts [], [], inOrderSource.gotos [(.valueExpr, 186)]⟩,
   ⟨188, 80, clauseSource.shifts [], [], clauseSource.gotos [(.valueExpr, 246)]⟩,
   -- 88
   ⟨188, 80, clauseValue.shifts [], [], clauseValue.gotos [(.valueExpr, 309)]⟩,
   ⟨188, 80, sourceLimit.shifts [], [], sourceLimit.gotos [(.valueExpr, 247)]⟩,
   ⟨188, 90, enclosed.shifts [], [], enclosed.gotos [(.valueExpr, 436)]⟩,
   ⟨188, 90, braced.shifts [], [], braced.gotos [(.valueExpr, 405)]⟩,
   ⟨188, 90, bracketedAsset.shifts [], [], bracketedAsset.gotos [(.valueExpr, 342)]⟩,
   ⟨188, 90, saveTarget.shifts [], [], saveTarget.gotos [(.valueExpr, 437)]⟩,
   ⟨188, 90, varOrigin.shifts [], [], varOrigin.gotos [(.valueExpr, 479)]⟩,
   ⟨188, 90, firstSource.shifts [], [], firstSource.gotos [(.valueExpr, 156)]⟩,
   -- 96
   ⟨188, 90, inOrderSource.shifts [], [], inOrderSource.gotos [(.valueExpr, 187)]⟩,
   ⟨188, 90, clauseSource.shifts [], [], clauseSource.gotos [(.valueExpr, 248)]⟩,
   ⟨188, 90, clauseValue.shifts [], [], clauseValue.gotos [(.valueExpr, 310)]⟩,
   ⟨188, 90, sourceLimit.shifts [], [], sourceLimit.gotos [(.valueExpr, 249)]⟩,
   ⟨188, 100, bracketedAsset.shifts [], [], bracketedAsset.gotos [(.valueExpr, 31)]⟩,
   ⟨188, 100, bracketedAsset.shifts [], [], bracketedAsset.gotos [(.valueExpr, 32)]⟩,
   ⟨188, 100, bracketedAsset.shifts [], [], bracketedAsset.gotos [(.valueExpr, 33)]⟩,
   ⟨188, 100, bracketedAsset.shifts [], [], bracketedAsset.gotos [(.valueExpr, 34)]⟩,
   -- 104
   ⟨188, 100, bracketedAsset.shifts [], [], bracketedAsset.gotos [(.valueExpr, 35)]⟩,
   ⟨188, 100, bracketedAsset.shifts [], [], bracketedAsset.gotos [(.valueExpr, 36)]⟩,
   ⟨188, 100, bracketedAsset.shifts [], [], bracketedAsset.gotos [(.valueExpr, 37)]⟩,
   ⟨188, 100, bracketedAsset.shifts [], [], bracketedAsset.gotos [(.valueExpr, 38)]⟩,
   ⟨188, 100, bracketedAsset.shifts [], [], bracketedAsset.gotos [(.valueExpr, 39)]⟩,
   ⟨190, 109,
     [(.colon, 543)], [(⟨.accountLiteral, 2, .plain⟩, afterFirstSource ++ operators)],
     [(.accountParts, 130)]⟩,
   ⟨188, 110, saveTarget.shifts [], [], saveTarget.gotos [(.valueExpr, 439)]⟩,
   ⟨188, 111, enclosed.shifts [], [], enclosed.gotos [(.valueExpr, 484)]⟩,
   -- 112
   ⟨188, 112, varOrigin.shifts [], [], varOrigin.gotos [(.valueExpr, 485)]⟩,
   ⟨188, 113, enclosed.shifts [], [], enclosed.gotos [(.valueExpr, 486)]⟩,
   ⟨188, 114, braced.shifts [], [], braced.gotos [(.valueExpr, 513)]⟩,
   ⟨188, 114, braced.shifts [], [], braced.gotos [(.valueExpr, 514)]⟩,
   ⟨188, 114, braced.shifts [], [], braced.gotos [(.valueExpr, 515)]⟩,
   ⟨188, 117, braced.shifts [], [], braced.gotos [(.valueExpr, 487)]⟩,
   ⟨188, 117, inOrderSource.shifts [], [], inOrderSource.gotos [(.valueExpr, 204)]⟩,
   ⟨188, 117, clauseSource.shifts [], [], clauseSource.gotos [(.valueExpr, 287)]⟩,
   -- 120
   ⟨188, 120, braced.shifts [], [], braced.gotos [(.valueExpr, 443)]⟩,
   ⟨188, 121, braced.shifts [], [], braced.gotos [(.valueExpr, 525)]⟩,
   ⟨188, 121, sourceLimit.shifts [], [], sourceLimit.gotos [(.valueExpr, 261)]⟩,
   ⟨188, 121, clauseValue.shifts [], [], clauseValue.gotos [(.valueExpr, 320)]⟩,
   ⟨188, 124, braced.shifts [], [], braced.gotos [(.valueExpr, 528)]⟩,
   ⟨188, 124, sourceLimit.shifts [], [], sourceLimit.gotos [(.valueExpr, 262)]⟩,
   ⟨188, 124, clauseValue.shifts [], [], clauseValue.gotos [(.valueExpr, 321)]⟩,
   ⟨203, 109,
     [(.colon, 544)], [(⟨.accountLiteral, 2, .plain⟩, afterInOrderSource ++ operators)],
     [(.accountParts, 157)]⟩]

/-- The states from 128 to 191. -/
def page2 : List State :=
  [.complete 190 128 .accountLiteralPart 1 .plain (.colon :: (afterFirstSource ++ operators)),
   .complete 190 129 .accountLiteralPart 1 .accountVariable
     (.colon :: (afterFirstSource ++ operators)),
   ⟨190, 130, [(.colon, 552)], [(⟨.accountLiteral, 3, .plain⟩, afterFirstSource ++ operators)], []⟩,
   .complete 190 131 .accountParts 2 .plain (.colon :: (afterFirstSource ++ operators)),
   .complete 190 132 .accountParts 3 .plain (.colon :: (afterFirstSource ++ operators)),
   ⟨204, 133,
     [(.plus, 75), (.minus, 85), (.slash, 95), (.kwAllowing, 572), (.backslash, 118)],
     [(⟨.srcAccount, 1, .plain⟩, afterSourceLimit), (⟨.portionedAllotment, 1, .plain⟩, [.kwFrom])],
     [(.colorConstraint, 318)]⟩,
   .complete 204 134 .valueExpr 1 .plain (afterFirstSource ++ operators),
   .complete 204 135 .valueExpr 1 .plain (afterFirstSource ++ operators),
   -- 136
   .complete 204 136 .valueExpr 1 .plain (afterFirstSource ++ operators),
   .complete 204 137 .valueExpr 1 .plain (afterFirstSource ++ operators),
   .complete 204 138 .valueExpr 1 .plain (afterFirstSource ++ operators),
   .complete 204 139 .valueExpr 1 .plain (afterFirstSource ++ operators),
   .complete 204 140 .valueExpr 1 .plain (afterFirstSource ++ operators),
   .complete 204 141 .valueExpr 1 .plain (afterFirstSource ++ operators),
   .complete 204 142 .valueExpr 1 .plain (afterFirstSource ++ operators),
   .complete 204 143 .valueExpr 1 .plain (afterFirstSource ++ operators),
   -- 144
   .complete 204 144 .variableExpr 1 .plain (afterFirstSource ++ operators),
   .complete 204 145 .assetLiteral 1 .plain (afterFirstSource ++ operators),
   .complete 204 146 .stringLiteral 1 .plain (afterFirstSource ++ operators),
   .complete 204 147 .numberLiteral 1 .plain (afterFirstSource ++ operators),
   .complete 204 148 .percentagePortionLiteral 1 .plain (afterFirstSource ++ operators),
   .complete 204 149 .application 1 .plain (afterFirstSource ++ operators),
   .complete 203 128 .accountLiteralPart 1 .plain (.colon :: (afterInOrderSource ++ operators)),
   .complete 203 129 .accountLiteralPart 1 .accountVariable
     (.colon :: (afterInOrderSource ++ operators)),
   -- 152
   .complete 204 152 .functionCall 3 .call (afterFirstSource ++ operators),
   .complete 204 153 .functionCall 3 .call (afterFirstSource ++ operators),
   ⟨204, 154, [(.slash, 95)], [(⟨.infixExpr, 3, .operation⟩, afterFirstSource ++ additive)], []⟩,
   ⟨204, 155, [(.slash, 95)], [(⟨.infixExpr, 3, .operation⟩, afterFirstSource ++ additive)], []⟩,
   .complete 204 156 .infixExpr 3 .operation (afterFirstSource ++ operators),
   ⟨203, 130,
     [(.colon, 553)], [(⟨.accountLiteral, 3, .plain⟩, afterInOrderSource ++ operators)], []⟩,
   .complete 204 158 .parenthesizedExpr 3 .plain (afterFirstSource ++ operators),
   .complete 204 159 .functionCall 4 .call (afterFirstSource ++ operators),
   -- 160
   .complete 204 160 .functionCall 4 .call (afterFirstSource ++ operators),
   .complete 204 161 .monetaryLiteral 4 .monetary (afterFirstSource ++ operators),
   .complete 203 131 .accountParts 2 .plain (.colon :: (afterInOrderSource ++ operators)),
   ⟨205, 163,
     [(.plus, 76), (.minus, 86), (.slash, 96), (.kwAllowing, 572), (.backslash, 118)],
     [(⟨.srcAccount, 1, .plain⟩, afterSourceLimit)], [(.colorConstraint, 318)]⟩,
   .complete 203 132 .accountParts 3 .plain (.colon :: (afterInOrderSource ++ operators)),
   .complete 205 134 .valueExpr 1 .plain (afterInOrderSource ++ operators),
   .complete 205 135 .valueExpr 1 .plain (afterInOrderSource ++ operators),
   .complete 205 136 .valueExpr 1 .plain (afterInOrderSource ++ operators),
   -- 168
   .complete 205 137 .valueExpr 1 .plain (afterInOrderSource ++ operators),
   .complete 205 138 .valueExpr 1 .plain (afterInOrderSource ++ operators),
   .complete 205 139 .valueExpr 1 .plain (afterInOrderSource ++ operators),
   .complete 205 140 .valueExpr 1 .plain (afterInOrderSource ++ operators),
   .complete 205 141 .valueExpr 1 .plain (afterInOrderSource ++ operators),
   .complete 205 142 .valueExpr 1 .plain (afterInOrderSource ++ operators),
   .complete 205 143 .valueExpr 1 .plain (afterInOrderSource ++ operators),
   .complete 205 144 .variableExpr 1 .plain (afterInOrderSource ++ operators),
   -- 176
   .complete 205 145 .assetLiteral 1 .plain (afterInOrderSource ++ operators),
   .complete 205 146 .stringLiteral 1 .plain (afterInOrderSource ++ operators),
   .complete 205 147 .numberLiteral 1 .plain (afterInOrderSource ++ operators),
   .complete 205 148 .percentagePortionLiteral 1 .plain (afterInOrderSource ++ operators),
   .complete 205 149 .application 1 .plain (afterInOrderSource ++ operators),
   ⟨206, 109,
     [(.colon, 545)], [(⟨.accountLiteral, 2, .plain⟩, afterClauseSource ++ operators)],
     [(.accountParts, 197)]⟩,
   ⟨207, 109,
     [(.colon, 547)], [(⟨.accountLiteral, 2, .plain⟩, afterSourceLimit ++ operators)],
     [(.accountParts, 198)]⟩,
   .complete 205 152 .functionCall 3 .call (afterInOrderSource ++ operators),
   -- 184
   .complete 205 153 .functionCall 3 .call (afterInOrderSource ++ operators),
   ⟨205, 154, [(.slash, 96)], [(⟨.infixExpr, 3, .operation⟩, afterInOrderSource ++ additive)], []⟩,
   ⟨205, 155, [(.slash, 96)], [(⟨.infixExpr, 3, .operation⟩, afterInOrderSource ++ additive)], []⟩,
   .complete 205 156 .infixExpr 3 .operation (afterInOrderSource ++ operators),
   .complete 205 158 .parenthesizedExpr 3 .plain (afterInOrderSource ++ operators),
   .complete 205 159 .functionCall 4 .call (afterInOrderSource ++ operators),
   .complete 205 160 .functionCall 4 .call (afterInOrderSource ++ operators),
   .complete 205 161 .monetaryLiteral 4 .monetary (afterInOrderSource ++ operators)]

/-- The states from 192 to 255. -/
def page3 : List State :=
  [⟨208, 109,
     [(.colon, 539)], [(⟨.accountLiteral, 2, .plain⟩, afterEnclosed ++ operators)],
     [(.accountParts, 250)]⟩,
   .complete 206 128 .accountLiteralPart 1 .plain (.colon :: (afterClauseSource ++ operators)),
   .complete 207 128 .accountLiteralPart 1 .plain (.colon :: (afterSourceLimit ++ operators)),
   .complete 206 129 .accountLiteralPart 1 .accountVariable
     (.colon :: (afterClauseSource ++ operators)),
   .complete 207 129 .accountLiteralPart 1 .accountVariable
     (.colon :: (afterSourceLimit ++ operators)),
   ⟨206, 130,
     [(.colon, 554)], [(⟨.accountLiteral, 3, .plain⟩, afterClauseSource ++ operators)], []⟩,
   ⟨207, 130, [(.colon, 556)], [(⟨.accountLiteral, 3, .plain⟩, afterSourceLimit ++ operators)], []⟩,
   .complete 206 131 .accountParts 2 .plain (.colon :: (afterClauseSource ++ operators)),
   -- 200
   .complete 207 131 .accountParts 2 .plain (.colon :: (afterSourceLimit ++ operators)),
   ⟨251, 163,
     [(.plus, 77), (.minus, 87), (.slash, 97), (.kwAllowing, 573), (.backslash, 119)],
     [(⟨.srcAccount, 1, .plain⟩, afterClauseValue)], [(.colorConstraint, 367)]⟩,
   .complete 206 132 .accountParts 3 .plain (.colon :: (afterClauseSource ++ operators)),
   .complete 207 132 .accountParts 3 .plain (.colon :: (afterSourceLimit ++ operators)),
   ⟨252, 204,
     [(.plus, 76), (.minus, 86), (.slash, 96)],
     [(⟨.colorConstraint, 2, .plain⟩, .kwAllowing :: afterSourceLimit)], []⟩,
   .complete 251 134 .valueExpr 1 .plain (afterClauseSource ++ operators),
   .complete 253 134 .valueExpr 1 .plain (afterSourceLimit ++ operators),
   .complete 251 135 .valueExpr 1 .plain (afterClauseSource ++ operators),
   -- 208
   .complete 253 135 .valueExpr 1 .plain (afterSourceLimit ++ operators),
   .complete 251 136 .valueExpr 1 .plain (afterClauseSource ++ operators),
   .complete 253 136 .valueExpr 1 .plain (afterSourceLimit ++ operators),
   .complete 251 137 .valueExpr 1 .plain (afterClauseSource ++ operators),
   .complete 253 137 .valueExpr 1 .plain (afterSourceLimit ++ operators),
   .complete 251 138 .valueExpr 1 .plain (afterClauseSource ++ operators),
   .complete 253 138 .valueExpr 1 .plain (afterSourceLimit ++ operators),
   .complete 251 139 .valueExpr 1 .plain (afterClauseSource ++ operators),
   -- 216
   .complete 253 139 .valueExpr 1 .plain (afterSourceLimit ++ operators),
   .complete 251 140 .valueExpr 1 .plain (afterClauseSource ++ operators),
   .complete 253 140 .valueExpr 1 .plain (afterSourceLimit ++ operators),
   .complete 251 141 .valueExpr 1 .plain (afterClauseSource ++ operators),
   .complete 253 141 .valueExpr 1 .plain (afterSourceLimit ++ operators),
   .complete 251 142 .valueExpr 1 .plain (afterClauseSource ++ operators),
   .complete 253 142 .valueExpr 1 .plain (afterSourceLimit ++ operators),
   .complete 251 143 .valueExpr 1 .plain (afterClauseSource ++ operators),
   -- 224
   .complete 253 143 .valueExpr 1 .plain (afterSourceLimit ++ operators),
   .complete 251 144 .variableExpr 1 .plain (afterClauseSource ++ operators),
   .complete 253 144 .variableExpr 1 .plain (afterSourceLimit ++ operators),
   .complete 251 145 .assetLiteral 1 .plain (afterClauseSource ++ operators),
   .complete 253 145 .assetLiteral 1 .plain (afterSourceLimit ++ operators),
   .complete 251 146 .stringLiteral 1 .plain (afterClauseSource ++ operators),
   .complete 253 146 .stringLiteral 1 .plain (afterSourceLimit ++ operators),
   .complete 251 147 .numberLiteral 1 .plain (afterClauseSource ++ operators),
   -- 232
   .complete 253 147 .numberLiteral 1 .plain (afterSourceLimit ++ operators),
   .complete 251 148 .percentagePortionLiteral 1 .plain (afterClauseSource ++ operators),
   .complete 253 148 .percentagePortionLiteral 1 .plain (afterSourceLimit ++ operators),
   .complete 251 149 .application 1 .plain (afterClauseSource ++ operators),
   .complete 253 149 .application 1 .plain (afterSourceLimit ++ operators),
   ⟨254, 109,
     [(.colon, 546)], [(⟨.accountLiteral, 2, .plain⟩, afterClauseValue ++ operators)],
     [(.accountParts, 282)]⟩,
   .complete 208 128 .accountLiteralPart 1 .plain (.colon :: (afterEnclosed ++ operators)),
   .complete 208 129 .accountLiteralPart 1 .accountVariable
     (.colon :: (afterEnclosed ++ operators)),
   -- 240
   .complete 251 152 .functionCall 3 .call (afterClauseSource ++ operators),
   .complete 253 152 .functionCall 3 .call (afterSourceLimit ++ operators),
   .complete 251 153 .functionCall 3 .call (afterClauseSource ++ operators),
   .complete 253 153 .functionCall 3 .call (afterSourceLimit ++ operators),
   ⟨251, 154, [(.slash, 97)], [(⟨.infixExpr, 3, .operation⟩, afterClauseSource ++ additive)], []⟩,
   ⟨253, 154, [(.slash, 99)], [(⟨.infixExpr, 3, .operation⟩, afterSourceLimit ++ additive)], []⟩,
   ⟨251, 155, [(.slash, 97)], [(⟨.infixExpr, 3, .operation⟩, afterClauseSource ++ additive)], []⟩,
   ⟨253, 155, [(.slash, 99)], [(⟨.infixExpr, 3, .operation⟩, afterSourceLimit ++ additive)], []⟩,
   -- 248
   .complete 251 156 .infixExpr 3 .operation (afterClauseSource ++ operators),
   .complete 253 156 .infixExpr 3 .operation (afterSourceLimit ++ operators),
   ⟨208, 130, [(.colon, 548)], [(⟨.accountLiteral, 3, .plain⟩, afterEnclosed ++ operators)], []⟩,
   .complete 251 158 .parenthesizedExpr 3 .plain (afterClauseSource ++ operators),
   .complete 253 158 .parenthesizedExpr 3 .plain (afterSourceLimit ++ operators),
   .complete 251 159 .functionCall 4 .call (afterClauseSource ++ operators),
   .complete 253 159 .functionCall 4 .call (afterSourceLimit ++ operators),
   .complete 251 160 .functionCall 4 .call (afterClauseSource ++ operators)]

/-- The states from 256 to 319. -/
def page4 : List State :=
  [.complete 253 160 .functionCall 4 .call (afterSourceLimit ++ operators),
   .complete 251 161 .monetaryLiteral 4 .monetary (afterClauseSource ++ operators),
   .complete 253 161 .monetaryLiteral 4 .monetary (afterSourceLimit ++ operators),
   .complete 208 131 .accountParts 2 .plain (.colon :: (afterEnclosed ++ operators)),
   .complete 208 132 .accountParts 3 .plain (.colon :: (afterEnclosed ++ operators)),
   ⟨253, 261,
     [(.plus, 79), (.minus, 89), (.slash, 99)],
     [(⟨.srcAccountBoundedOverdraft, 6, .boundedOverdraft⟩, afterSourceLimit)], []⟩,
   ⟨253, 262,
     [(.plus, 79), (.minus, 89), (.slash, 99)],
     [(⟨.srcAccountBoundedOverdraft, 7, .colouredOverdraft⟩, afterSourceLimit)], []⟩,
   .complete 255 134 .valueExpr 1 .plain (afterEnclosed ++ operators),
   -- 264
   .complete 255 135 .valueExpr 1 .plain (afterEnclosed ++ operators),
   .complete 255 136 .valueExpr 1 .plain (afterEnclosed ++ operators),
   .complete 255 137 .valueExpr 1 .plain (afterEnclosed ++ operators),
   .complete 255 138 .valueExpr 1 .plain (afterEnclosed ++ operators),
   .complete 255 139 .valueExpr 1 .plain (afterEnclosed ++ operators),
   .complete 255 140 .valueExpr 1 .plain (afterEnclosed ++ operators),
   .complete 255 141 .valueExpr 1 .plain (afterEnclosed ++ operators),
   .complete 255 142 .valueExpr 1 .plain (afterEnclosed ++ operators),
   -- 272
   .complete 255 143 .valueExpr 1 .plain (afterEnclosed ++ operators),
   .complete 255 144 .variableExpr 1 .plain (afterEnclosed ++ operators),
   .complete 255 145 .assetLiteral 1 .plain (afterEnclosed ++ operators),
   .complete 255 146 .stringLiteral 1 .plain (afterEnclosed ++ operators),
   .complete 255 147 .numberLiteral 1 .plain (afterEnclosed ++ operators),
   .complete 255 148 .percentagePortionLiteral 1 .plain (afterEnclosed ++ operators),
   .complete 255 149 .application 1 .plain (afterEnclosed ++ operators),
   ⟨256, 109,
     [(.colon, 540)], [(⟨.accountLiteral, 2, .plain⟩, afterBracketedAsset ++ operators)],
     [(.accountParts, 311)]⟩,
   -- 280
   .complete 254 128 .accountLiteralPart 1 .plain (.colon :: (afterClauseValue ++ operators)),
   .complete 254 129 .accountLiteralPart 1 .accountVariable
     (.colon :: (afterClauseValue ++ operators)),
   ⟨254, 130, [(.colon, 555)], [(⟨.accountLiteral, 3, .plain⟩, afterClauseValue ++ operators)], []⟩,
   .complete 255 158 .parenthesizedExpr 3 .plain (afterEnclosed ++ operators),
   .complete 255 161 .monetaryLiteral 4 .monetary (afterEnclosed ++ operators),
   .complete 254 131 .accountParts 2 .plain (.colon :: (afterClauseValue ++ operators)),
   .complete 254 132 .accountParts 3 .plain (.colon :: (afterClauseValue ++ operators)),
   ⟨257, 204,
     [(.plus, 77), (.minus, 87), (.slash, 97)],
     [(⟨.colorConstraint, 2, .plain⟩, .kwAllowing :: afterClauseValue)], []⟩,
   -- 288
   .complete 258 134 .valueExpr 1 .plain (afterClauseValue ++ operators),
   .complete 258 135 .valueExpr 1 .plain (afterClauseValue ++ operators),
   .complete 258 136 .valueExpr 1 .plain (afterClauseValue ++ operators),
   .complete 258 137 .valueExpr 1 .plain (afterClauseValue ++ operators),
   .complete 258 138 .valueExpr 1 .plain (afterClauseValue ++ operators),
   .complete 258 139 .valueExpr 1 .plain (afterClauseValue ++ operators),
   .complete 258 140 .valueExpr 1 .plain (afterClauseValue ++ operators),
   .complete 258 141 .valueExpr 1 .plain (afterClauseValue ++ operators),
   -- 296
   .complete 258 142 .valueExpr 1 .plain (afterClauseValue ++ operators),
   .complete 258 143 .valueExpr 1 .plain (afterClauseValue ++ operators),
   .complete 258 144 .variableExpr 1 .plain (afterClauseValue ++ operators),
   .complete 258 145 .assetLiteral 1 .plain (afterClauseValue ++ operators),
   .complete 258 146 .stringLiteral 1 .plain (afterClauseValue ++ operators),
   .complete 258 147 .numberLiteral 1 .plain (afterClauseValue ++ operators),
   .complete 258 148 .percentagePortionLiteral 1 .plain (afterClauseValue ++ operators),
   .complete 258 149 .application 1 .plain (afterClauseValue ++ operators),
   -- 304
   .complete 256 128 .accountLiteralPart 1 .plain (.colon :: (afterBracketedAsset ++ operators)),
   .complete 256 129 .accountLiteralPart 1 .accountVariable
     (.colon :: (afterBracketedAsset ++ operators)),
   .complete 258 152 .functionCall 3 .call (afterClauseValue ++ operators),
   .complete 258 153 .functionCall 3 .call (afterClauseValue ++ operators),
   ⟨258, 154, [(.slash, 98)], [(⟨.infixExpr, 3, .operation⟩, afterClauseValue ++ additive)], []⟩,
   ⟨258, 155, [(.slash, 98)], [(⟨.infixExpr, 3, .operation⟩, afterClauseValue ++ additive)], []⟩,
   .complete 258 156 .infixExpr 3 .operation (afterClauseValue ++ operators),
   ⟨256, 130,
     [(.colon, 549)], [(⟨.accountLiteral, 3, .plain⟩, afterBracketedAsset ++ operators)], []⟩,
   -- 312
   .complete 258 158 .parenthesizedExpr 3 .plain (afterClauseValue ++ operators),
   .complete 258 159 .functionCall 4 .call (afterClauseValue ++ operators),
   .complete 258 160 .functionCall 4 .call (afterClauseValue ++ operators),
   .complete 258 161 .monetaryLiteral 4 .monetary (afterClauseValue ++ operators),
   .complete 256 131 .accountParts 2 .plain (.colon :: (afterBracketedAsset ++ operators)),
   .complete 256 132 .accountParts 3 .plain (.colon :: (afterBracketedAsset ++ operators)),
   ⟨259, 318, [(.kwAllowing, 575)], [(⟨.srcAccount, 2, .plain⟩, afterSourceLimit)], []⟩,
   ⟨258, 319,
     [(.plus, 78), (.minus, 88), (.slash, 98)], [(⟨.destAccount, 1, .plain⟩, afterClauseValue)],
     []⟩]

/-- The states from 320 to 383. -/
def page5 : List State :=
  [⟨258, 261,
     [(.plus, 78), (.minus, 88), (.slash, 98)],
     [(⟨.srcAccountBoundedOverdraft, 6, .boundedOverdraft⟩, afterClauseValue)], []⟩,
   ⟨258, 262,
     [(.plus, 78), (.minus, 88), (.slash, 98)],
     [(⟨.srcAccountBoundedOverdraft, 7, .colouredOverdraft⟩, afterClauseValue)], []⟩,
   .complete 185 134 .valueExpr 1 .plain (afterBracketedAsset ++ operators),
   .complete 185 135 .valueExpr 1 .plain (afterBracketedAsset ++ operators),
   .complete 185 136 .valueExpr 1 .plain (afterBracketedAsset ++ operators),
   .complete 185 137 .valueExpr 1 .plain (afterBracketedAsset ++ operators),
   .complete 185 138 .valueExpr 1 .plain (afterBracketedAsset ++ operators),
   .complete 185 139 .valueExpr 1 .plain (afterBracketedAsset ++ operators),
   -- 328
   .complete 185 140 .valueExpr 1 .plain (afterBracketedAsset ++ operators),
   .complete 185 141 .valueExpr 1 .plain (afterBracketedAsset ++ operators),
   .complete 185 142 .valueExpr 1 .plain (afterBracketedAsset ++ operators),
   .complete 185 143 .valueExpr 1 .plain (afterBracketedAsset ++ operators),
   .complete 185 144 .variableExpr 1 .plain (afterBracketedAsset ++ operators),
   .complete 185 145 .assetLiteral 1 .plain (afterBracketedAsset ++ operators),
   .complete 185 146 .stringLiteral 1 .plain (afterBracketedAsset ++ operators),
   .complete 185 147 .numberLiteral 1 .plain (afterBracketedAsset ++ operators),
   -- 336
   .complete 185 148 .percentagePortionLiteral 1 .plain (afterBracketedAsset ++ operators),
   .complete 185 149 .application 1 .plain (afterBracketedAsset ++ operators),
   .complete 185 152 .functionCall 3 .call (afterBracketedAsset ++ operators),
   .complete 185 153 .functionCall 3 .call (afterBracketedAsset ++ operators),
   ⟨185, 154, [(.slash, 92)], [(⟨.infixExpr, 3, .operation⟩, afterBracketedAsset ++ additive)], []⟩,
   ⟨185, 155, [(.slash, 92)], [(⟨.infixExpr, 3, .operation⟩, afterBracketedAsset ++ additive)], []⟩,
   .complete 185 156 .infixExpr 3 .operation (afterBracketedAsset ++ operators),
   .complete 185 158 .parenthesizedExpr 3 .plain (afterBracketedAsset ++ operators),
   -- 344
   .complete 185 159 .functionCall 4 .call (afterBracketedAsset ++ operators),
   .complete 185 160 .functionCall 4 .call (afterBracketedAsset ++ operators),
   .complete 185 161 .monetaryLiteral 4 .monetary (afterBracketedAsset ++ operators),
   .complete 180 347 .source 1 .plain afterSourceLimit,
   .complete 180 348 .source 1 .plain afterSourceLimit,
   .complete 180 349 .source 1 .plain afterSourceLimit,
   .complete 180 350 .source 1 .plain afterSourceLimit,
   .complete 180 351 .source 1 .plain afterSourceLimit,
   -- 352
   .complete 180 352 .source 1 .plain afterSourceLimit,
   .complete 180 353 .source 1 .plain afterSourceLimit,
   .complete 180 354 .srcInorder 2 .plain afterSourceLimit,
   .complete 180 355 .sources 1 .plain afterSourceLimit,
   .complete 180 356 .srcAllotment 3 .plain afterSourceLimit,
   .complete 180 357 .srcInorder 3 .plain afterSourceLimit,
   .complete 180 358 .sources 2 .plain afterSourceLimit,
   .complete 180 359 .srcAccountUnboundedOverdraft 4 .unboundedOverdraft afterSourceLimit,
   -- 360
   .complete 180 360 .srcOneof 4 .plain afterSourceLimit,
   .complete 180 361 .srcCapped 4 .capped afterSourceLimit,
   .complete 180 362 .srcAccountUnboundedOverdraft 5 .unboundedOverdraft afterSourceLimit,
   .complete 260 152 .functionCall 3 .call
     (.rbrace :: .lparen :: .rparen :: .rbracket :: .comma :: (afterStatement ++ operators)),
   .complete 260 153 .functionCall 3 .call
     (.rbrace :: .lparen :: .rparen :: .rbracket :: .comma :: (afterStatement ++ operators)),
   .complete 260 159 .functionCall 4 .call
     (.rbrace :: .lparen :: .rparen :: .rbracket :: .comma :: (afterStatement ++ operators)),
   .complete 260 160 .functionCall 4 .call
     (.rbrace :: .lparen :: .rparen :: .rbracket :: .comma :: (afterStatement ++ operators)),
   ⟨261, 318, [(.kwAllowing, 576)], [(⟨.srcAccount, 2, .plain⟩, afterClauseValue)], []⟩,
   -- 368
   .complete 262 368 .destination 1 .plain (.rparen :: afterClauseValue),
   .complete 262 369 .destination 1 .plain (.rparen :: afterClauseValue),
   .complete 262 370 .destination 1 .plain (.rparen :: afterClauseValue),
   .complete 262 371 .destination 1 .plain (.rparen :: afterClauseValue),
   .complete 262 372 .destAllotment 3 .plain (.rparen :: afterClauseValue),
   .complete 262 373 .destInorder 4 .plain (.rparen :: afterClauseValue),
   .complete 262 374 .destInorder 5 .plain (.rparen :: afterClauseValue),
   .complete 262 375 .destOneof 5 .plain (.rparen :: afterClauseValue),
   -- 376
   .complete 262 376 .destOneof 6 .plain (.rparen :: afterClauseValue),
   .complete 184 347 .source 1 .plain afterClauseValue,
   .complete 184 348 .source 1 .plain afterClauseValue,
   .complete 184 349 .source 1 .plain afterClauseValue,
   .complete 184 350 .source 1 .plain afterClauseValue,
   .complete 184 351 .source 1 .plain afterClauseValue,
   .complete 184 352 .source 1 .plain afterClauseValue,
   .complete 184 353 .source 1 .plain afterClauseValue]

/-- The states from 384 to 447. -/
def page6 : List State :=
  [.complete 184 354 .srcInorder 2 .plain afterClauseValue,
   .complete 184 385 .srcClauses 1 .plain afterClauseValue,
   .complete 184 356 .srcAllotment 3 .plain afterClauseValue,
   .complete 184 387 .srcClauses 2 .plain afterClauseValue,
   .complete 184 357 .srcInorder 3 .plain afterClauseValue,
   .complete 184 359 .srcAccountUnboundedOverdraft 4 .unboundedOverdraft afterClauseValue,
   .complete 184 390 .allotmentClauseSrc 3 .plain afterClauseValue,
   .complete 184 360 .srcOneof 4 .plain afterClauseValue,
   -- 392
   .complete 184 361 .srcCapped 4 .capped afterClauseValue,
   .complete 184 393 .destClauses 1 .plain afterClauseValue,
   .complete 184 362 .srcAccountUnboundedOverdraft 5 .unboundedOverdraft afterClauseValue,
   .complete 184 395 .destClauses 2 .plain afterClauseValue,
   .complete 184 396 .keptOrDestination 1 .plain afterClauseValue,
   .complete 184 397 .keptOrDestination 1 .plain afterClauseValue,
   .complete 184 398 .allotmentClauseDest 2 .plain afterClauseValue,
   .complete 184 399 .destinationTo 2 .plain afterClauseValue,
   -- 400
   ⟨263, 400,
     [(.kwSend, 40), (.kwSave, 41), (.kwOverdraft, 602), (.identifier, 593)],
     [(⟨.program, 1, .plain⟩, [.endOfText])],
     [(.statement, 455), (.sendStatement, 451), (.saveStatement, 452), (.fnCallStatement, 453),
      (.functionCall, 454), (.statements, 409)]⟩,
   .complete 264 152 .functionCall 3 .call (afterAddress ++ operators),
   .complete 264 153 .functionCall 3 .call (afterAddress ++ operators),
   ⟨264, 154, [(.slash, 91)], [(⟨.infixExpr, 3, .operation⟩, afterAddress ++ additive)], []⟩,
   ⟨264, 155, [(.slash, 91)], [(⟨.infixExpr, 3, .operation⟩, afterAddress ++ additive)], []⟩,
   .complete 264 156 .infixExpr 3 .operation (afterAddress ++ operators),
   .complete 264 159 .functionCall 4 .call (afterAddress ++ operators),
   .complete 264 160 .functionCall 4 .call (afterAddress ++ operators),
   -- 408
   ⟨263, 408,
     [(.kwSend, 40), (.kwSave, 41), (.kwOverdraft, 602), (.identifier, 593)],
     [(⟨.program, 1, .plain⟩, [.endOfText])],
     [(.statement, 456), (.sendStatement, 451), (.saveStatement, 452), (.fnCallStatement, 453),
      (.functionCall, 454)]⟩,
   ⟨263, 409,
     [(.kwSend, 40), (.kwSave, 41), (.kwOverdraft, 602), (.identifier, 593)],
     [(⟨.program, 2, .plain⟩, [.endOfText])],
     [(.statement, 456), (.sendStatement, 451), (.saveStatement, 452), (.fnCallStatement, 453),
      (.functionCall, 454)]⟩,
   ⟨265, 109,
     [(.colon, 541)], [(⟨.accountLiteral, 2, .plain⟩, afterStatement ++ operators)],
     [(.accountParts, 413)]⟩,
   .complete 265 128 .accountLiteralPart 1 .plain (.colon :: (afterStatement ++ operators)),
   .complete 265 129 .accountLiteralPart 1 .accountVariable
     (.colon :: (afterStatement ++ operators)),
   ⟨265, 130, [(.colon, 550)], [(⟨.accountLiteral, 3, .plain⟩, afterStatement ++ operators)], []⟩,
   .complete 265 131 .accountParts 2 .plain (.colon :: (afterStatement ++ operators)),
   .complete 265 132 .accountParts 3 .plain (.colon :: (afterStatement ++ operators)),
   -- 416
   .complete 266 134 .valueExpr 1 .plain (afterStatement ++ operators),
   .complete 266 135 .valueExpr 1 .plain (afterStatement ++ operators),
   .complete 266 136 .valueExpr 1 .plain (afterStatement ++ operators),
   .complete 266 137 .valueExpr 1 .plain (afterStatement ++ operators),
   .complete 266 138 .valueExpr 1 .plain (afterStatement ++ operators),
   .complete 266 139 .valueExpr 1 .plain (afterStatement ++ operators),
   .complete 266 140 .valueExpr 1 .plain (afterStatement ++ operators),
   .complete 266 141 .valueExpr 1 .plain (afterStatement ++ operators),
   -- 424
   .complete 266 142 .valueExpr 1 .plain (afterStatement ++ operators),
   .complete 266 143 .valueExpr 1 .plain (afterStatement ++ operators),
   .complete 266 144 .variableExpr 1 .plain (afterStatement ++ operators),
   .complete 266 145 .assetLiteral 1 .plain (afterStatement ++ operators),
   .complete 266 146 .stringLiteral 1 .plain (afterStatement ++ operators),
   .complete 266 147 .numberLiteral 1 .plain (afterStatement ++ operators),
   .complete 266 148 .percentagePortionLiteral 1 .plain (afterStatement ++ operators),
   .complete 266 149 .application 1 .plain (afterStatement ++ operators),
   -- 432
   ⟨267, 154,
     [(.slash, 90)],
     [(⟨.infixExpr, 3, .operation⟩, [.rbrace, .lparen, .rparen, .rbracket, .plus, .minus,
      .comma])], []⟩,
   ⟨266, 154, [(.slash, 93)], [(⟨.infixExpr, 3, .operation⟩, afterStatement ++ additive)], []⟩,
   ⟨267, 155,
     [(.slash, 90)],
     [(⟨.infixExpr, 3, .operation⟩, [.rbrace, .lparen, .rparen, .rbracket, .plus, .minus,
      .comma])], []⟩,
   ⟨266, 155, [(.slash, 93)], [(⟨.infixExpr, 3, .operation⟩, afterStatement ++ additive)], []⟩,
   .complete 267 156 .infixExpr 3 .operation
     (.rbrace :: .lparen :: .rparen :: .rbracket :: .comma :: operators),
   .complete 266 156 .infixExpr 3 .operation (afterStatement ++ operators),
   .complete 266 158 .parenthesizedExpr 3 .plain (afterStatement ++ operators),
   ⟨266, 439,
     [(.plus, 73), (.minus, 83), (.slash, 93)], [(⟨.saveStatement, 4, .plain⟩, afterStatement)],
     []⟩,
   -- 440
   .complete 266 161 .monetaryLiteral 4 .monetary (afterStatement ++ operators),
   ⟨268, 109,
     [(.colon, 542)], [(⟨.accountLiteral, 2, .plain⟩, afterVarOrigin ++ operators)],
     [(.accountParts, 447)]⟩,
   ⟨269, 163,
     [(.plus, 71), (.minus, 81), (.slash, 91), (.kwAllowing, 571), (.backslash, 117)],
     [(⟨.srcAccount, 1, .plain⟩, [.kwDestination])], [(.colorConstraint, 570)]⟩,
   ⟨270, 443,
     [(.plus, 71), (.minus, 81), (.slash, 91), (.kwTo, 24), (.destinationKept, 585)], [],
     [(.keptOrDestination, 588), (.destinationTo, 584)]⟩,
   .complete 268 128 .accountLiteralPart 1 .plain (.colon :: (afterVarOrigin ++ operators)),
   .complete 268 129 .accountLiteralPart 1 .accountVariable
     (.colon :: (afterVarOrigin ++ operators)),
   ⟨271, 446,
     [(.plus, 70), (.minus, 80), (.slash, 90), (.comma, 111)],
     [(⟨.functionCallArgs, 1, .plain⟩, [.rparen])], [(.moreArgs, 567)]⟩,
   ⟨268, 130, [(.colon, 551)], [(⟨.accountLiteral, 3, .plain⟩, afterVarOrigin ++ operators)], []⟩]

/-- The states from 448 to 511. -/
def page7 : List State :=
  [.complete 268 131 .accountParts 2 .plain (.colon :: (afterVarOrigin ++ operators)),
   .complete 268 132 .accountParts 3 .plain (.colon :: (afterVarOrigin ++ operators)),
   ⟨272, 450,
     [(.plus, 71), (.minus, 81), (.slash, 91)],
     [(⟨.portionedAllotment, 1, .plain⟩, [.kwFrom, .kwTo, .destinationKept])], []⟩,
   .complete 263 451 .statement 1 .plain afterStatement,
   .complete 263 452 .statement 1 .plain afterStatement,
   .complete 263 453 .statement 1 .plain afterStatement,
   .complete 263 454 .fnCallStatement 1 .plain afterStatement,
   .complete 263 455 .statements 1 .plain afterStatement,
   -- 456
   .complete 263 456 .statements 2 .plain afterStatement,
   .complete 273 134 .valueExpr 1 .plain (afterVarOrigin ++ operators),
   .complete 273 135 .valueExpr 1 .plain (afterVarOrigin ++ operators),
   .complete 273 136 .valueExpr 1 .plain (afterVarOrigin ++ operators),
   .complete 273 137 .valueExpr 1 .plain (afterVarOrigin ++ operators),
   .complete 273 138 .valueExpr 1 .plain (afterVarOrigin ++ operators),
   .complete 273 139 .valueExpr 1 .plain (afterVarOrigin ++ operators),
   .complete 273 140 .valueExpr 1 .plain (afterVarOrigin ++ operators),
   -- 464
   .complete 273 141 .valueExpr 1 .plain (afterVarOrigin ++ operators),
   .complete 273 142 .valueExpr 1 .plain (afterVarOrigin ++ operators),
   .complete 273 143 .valueExpr 1 .plain (afterVarOrigin ++ operators),
   .complete 273 144 .variableExpr 1 .plain (afterVarOrigin ++ operators),
   .complete 273 145 .assetLiteral 1 .plain (afterVarOrigin ++ operators),
   .complete 273 146 .stringLiteral 1 .plain (afterVarOrigin ++ operators),
   .complete 273 147 .numberLiteral 1 .plain (afterVarOrigin ++ operators),
   .complete 273 148 .percentagePortionLiteral 1 .plain (afterVarOrigin ++ operators),
   -- 472
   .complete 273 149 .application 1 .plain (afterVarOrigin ++ operators),
   .complete 263 473 .varsDeclaration 3 .plain afterStatement,
   .complete 273 152 .functionCall 3 .call (afterVarOrigin ++ operators),
   .complete 273 153 .functionCall 3 .call (afterVarOrigin ++ operators),
   .complete 263 476 .varsDeclaration 4 .plain afterStatement,
   ⟨273, 154,
     [(.slash, 94)], [(⟨.infixExpr, 3, .operation⟩, [.rbrace, .plus, .minus, .identifier])], []⟩,
   ⟨273, 155,
     [(.slash, 94)], [(⟨.infixExpr, 3, .operation⟩, [.rbrace, .plus, .minus, .identifier])], []⟩,
   .complete 273 156 .infixExpr 3 .operation (afterVarOrigin ++ operators),
   -- 480
   .complete 273 158 .parenthesizedExpr 3 .plain (afterVarOrigin ++ operators),
   .complete 273 159 .functionCall 4 .call (afterVarOrigin ++ operators),
   .complete 273 160 .functionCall 4 .call (afterVarOrigin ++ operators),
   .complete 273 161 .monetaryLiteral 4 .monetary (afterVarOrigin ++ operators),
   ⟨271, 484,
     [(.plus, 70), (.minus, 80), (.slash, 90)], [(⟨.moreArgs, 2, .plain⟩, [.rparen, .comma])], []⟩,
   ⟨273, 485,
     [(.plus, 74), (.minus, 84), (.slash, 94)], [(⟨.varOrigin, 2, .plain⟩, afterVarOrigin)], []⟩,
   ⟨271, 486,
     [(.plus, 70), (.minus, 80), (.slash, 90)], [(⟨.moreArgs, 3, .plain⟩, [.rparen, .comma])], []⟩,
   ⟨274, 204,
     [(.plus, 71), (.minus, 81), (.slash, 91)],
     [(⟨.colorConstraint, 2, .plain⟩, [.kwDestination, .kwAllowing])], []⟩,
   -- 488
   ⟨275, 319,
     [(.plus, 70), (.minus, 80), (.slash, 90)], [(⟨.destAccount, 1, .plain⟩, [.rbrace, .rparen])],
     []⟩,
   ⟨276, 319,
     [(.plus, 71), (.minus, 81), (.slash, 91)],
     [(⟨.destAccount, 1, .plain⟩, [.kwMax, .kwRemaining])], []⟩,
   .complete 263 490 .sendStatement 10 .plain afterStatement,
   ⟨277, 491,
     [(.rbrace, 473), (.identifier, 614)], [], [(.varDeclaration, 565), (.varDeclarations, 538)]⟩,
   ⟨278, 492,
     [(.plus, 70), (.minus, 80), (.slash, 90)], [(⟨.sentValue, 1, .sentLiteral⟩, [.lparen])], []⟩,
   ⟨279, 492,
     [(.plus, 71), (.minus, 81), (.slash, 91)], [(⟨.sentValue, 1, .sentLiteral⟩, [.kwFrom])], []⟩,
   ⟨280, 494, [(.rparen, 283), (.plus, 70), (.minus, 80), (.slash, 90)], [], []⟩,
   ⟨280, 494, [(.rparen, 343), (.plus, 70), (.minus, 80), (.slash, 90)], [], []⟩,
   -- 496
   ⟨280, 494, [(.rparen, 438), (.plus, 70), (.minus, 80), (.slash, 90)], [], []⟩,
   ⟨280, 494, [(.rparen, 480), (.plus, 70), (.minus, 80), (.slash, 90)], [], []⟩,
   ⟨280, 494, [(.rparen, 158), (.plus, 70), (.minus, 80), (.slash, 90)], [], []⟩,
   ⟨280, 494, [(.rparen, 188), (.plus, 70), (.minus, 80), (.slash, 90)], [], []⟩,
   ⟨280, 494, [(.rparen, 251), (.plus, 70), (.minus, 80), (.slash, 90)], [], []⟩,
   ⟨280, 494, [(.rparen, 312), (.plus, 70), (.minus, 80), (.slash, 90)], [], []⟩,
   ⟨280, 494, [(.rparen, 252), (.plus, 70), (.minus, 80), (.slash, 90)], [], []⟩,
   ⟨281, 503,
     [(.equals, 112)], [(⟨.varDeclaration, 2, .declaration⟩, afterVarOrigin)], [(.varOrigin, 568)]⟩,
   -- 504
   ⟨282, 504, [(.rbracket, 284), (.plus, 70), (.minus, 80), (.slash, 90)], [], []⟩,
   ⟨282, 504, [(.rbracket, 346), (.plus, 70), (.minus, 80), (.slash, 90)], [], []⟩,
   ⟨282, 504, [(.rbracket, 440), (.plus, 70), (.minus, 80), (.slash, 90)], [], []⟩,
   ⟨282, 504, [(.rbracket, 483), (.plus, 70), (.minus, 80), (.slash, 90)], [], []⟩,
   ⟨282, 504, [(.rbracket, 161), (.plus, 70), (.minus, 80), (.slash, 90)], [], []⟩,
   ⟨282, 504, [(.rbracket, 191), (.plus, 70), (.minus, 80), (.slash, 90)], [], []⟩,
   ⟨282, 504, [(.rbracket, 257), (.plus, 70), (.minus, 80), (.slash, 90)], [], []⟩,
   ⟨282, 504, [(.rbracket, 315), (.plus, 70), (.minus, 80), (.slash, 90)], [], []⟩]

/-- The states from 512 to 575. -/
def page8 : List State :=
  [⟨282, 504, [(.rbracket, 258), (.plus, 70), (.minus, 80), (.slash, 90)], [], []⟩,
   ⟨279, 513, [(.kwFrom, 16), (.plus, 71), (.minus, 81), (.slash, 91)], [], []⟩,
   ⟨279, 513, [(.kwFrom, 17), (.plus, 71), (.minus, 81), (.slash, 91)], [], []⟩,
   ⟨279, 513, [(.kwFrom, 18), (.plus, 71), (.minus, 81), (.slash, 91)], [], []⟩,
   ⟨283, 516,
     [(.kwTo, 22), (.destinationKept, 397)],
     [(⟨.remainingAllotment, 1, .plain⟩, [.kwTo, .destinationKept])],
     [(.keptOrDestination, 677), (.destinationTo, 396)]⟩,
   ⟨283, 516,
     [(.kwTo, 22), (.destinationKept, 397)],
     [(⟨.remainingAllotment, 1, .plain⟩, [.kwTo, .destinationKept])],
     [(.keptOrDestination, 678), (.destinationTo, 396)]⟩,
   ⟨283, 518,
     [(.kwTo, 23), (.destinationKept, 397)], [],
     [(.keptOrDestination, 398), (.destinationTo, 396)]⟩,
   ⟨284, 519,
     [(.kwMax, 120), (.kwRemaining, 523)], [],
     [(.destinationInOrderClause, 581), (.inOrderClauses, 562)]⟩,
   -- 520
   ⟨284, 519,
     [(.kwMax, 120), (.kwRemaining, 524)], [],
     [(.destinationInOrderClause, 581), (.inOrderClauses, 563)]⟩,
   ⟨283, 521,
     [(.kwTo, 22), (.destinationKept, 397)], [],
     [(.keptOrDestination, 679), (.destinationTo, 396)]⟩,
   ⟨283, 521,
     [(.kwTo, 22), (.destinationKept, 397)], [],
     [(.keptOrDestination, 680), (.destinationTo, 396)]⟩,
   ⟨283, 523,
     [(.kwTo, 22), (.destinationKept, 397)], [],
     [(.keptOrDestination, 681), (.destinationTo, 396)]⟩,
   ⟨283, 523,
     [(.kwTo, 22), (.destinationKept, 397)], [],
     [(.keptOrDestination, 682), (.destinationTo, 396)]⟩,
   ⟨285, 261,
     [(.plus, 71), (.minus, 81), (.slash, 91)],
     [(⟨.srcAccountBoundedOverdraft, 6, .boundedOverdraft⟩, [.kwDestination])], []⟩,
   ⟨283, 526,
     [(.kwTo, 22), (.destinationKept, 397)], [],
     [(.keptOrDestination, 683), (.destinationTo, 396)]⟩,
   ⟨283, 526,
     [(.kwTo, 22), (.destinationKept, 397)], [],
     [(.keptOrDestination, 684), (.destinationTo, 396)]⟩,
   -- 528
   ⟨285, 262,
     [(.plus, 71), (.minus, 81), (.slash, 91)],
     [(⟨.srcAccountBoundedOverdraft, 7, .colouredOverdraft⟩, [.kwDestination])], []⟩,
   ⟨286, 529, [(.variableName, 239), (.accountText, 238)], [], [(.accountLiteralPart, 192)]⟩,
   ⟨286, 529, [(.variableName, 305), (.accountText, 304)], [], [(.accountLiteralPart, 279)]⟩,
   ⟨286, 529, [(.variableName, 412), (.accountText, 411)], [], [(.accountLiteralPart, 410)]⟩,
   ⟨286, 529, [(.variableName, 445), (.accountText, 444)], [], [(.accountLiteralPart, 441)]⟩,
   ⟨286, 529, [(.variableName, 129), (.accountText, 128)], [], [(.accountLiteralPart, 109)]⟩,
   ⟨286, 529, [(.variableName, 151), (.accountText, 150)], [], [(.accountLiteralPart, 127)]⟩,
   ⟨286, 529, [(.variableName, 195), (.accountText, 193)], [], [(.accountLiteralPart, 181)]⟩,
   -- 536
   ⟨286, 529, [(.variableName, 281), (.accountText, 280)], [], [(.accountLiteralPart, 237)]⟩,
   ⟨286, 529, [(.variableName, 196), (.accountText, 194)], [], [(.accountLiteralPart, 182)]⟩,
   ⟨277, 538, [(.rbrace, 476), (.identifier, 614)], [], [(.varDeclaration, 566)]⟩,
   ⟨286, 539, [(.variableName, 239), (.accountText, 238)], [], [(.accountLiteralPart, 259)]⟩,
   ⟨286, 539, [(.variableName, 305), (.accountText, 304)], [], [(.accountLiteralPart, 316)]⟩,
   ⟨286, 539, [(.variableName, 412), (.accountText, 411)], [], [(.accountLiteralPart, 414)]⟩,
   ⟨286, 539, [(.variableName, 445), (.accountText, 444)], [], [(.accountLiteralPart, 448)]⟩,
   ⟨286, 539, [(.variableName, 129), (.accountText, 128)], [], [(.accountLiteralPart, 131)]⟩,
   -- 544
   ⟨286, 539, [(.variableName, 151), (.accountText, 150)], [], [(.accountLiteralPart, 162)]⟩,
   ⟨286, 539, [(.variableName, 195), (.accountText, 193)], [], [(.accountLiteralPart, 199)]⟩,
   ⟨286, 539, [(.variableName, 281), (.accountText, 280)], [], [(.accountLiteralPart, 285)]⟩,
   ⟨286, 539, [(.variableName, 196), (.accountText, 194)], [], [(.accountLiteralPart, 200)]⟩,
   ⟨286, 548, [(.variableName, 239), (.accountText, 238)], [], [(.accountLiteralPart, 260)]⟩,
   ⟨286, 548, [(.variableName, 305), (.accountText, 304)], [], [(.accountLiteralPart, 317)]⟩,
   ⟨286, 548, [(.variableName, 412), (.accountText, 411)], [], [(.accountLiteralPart, 415)]⟩,
   ⟨286, 548, [(.variableName, 445), (.accountText, 444)], [], [(.accountLiteralPart, 449)]⟩,
   -- 552
   ⟨286, 548, [(.variableName, 129), (.accountText, 128)], [], [(.accountLiteralPart, 132)]⟩,
   ⟨286, 548, [(.variableName, 151), (.accountText, 150)], [], [(.accountLiteralPart, 164)]⟩,
   ⟨286, 548, [(.variableName, 195), (.accountText, 193)], [], [(.accountLiteralPart, 202)]⟩,
   ⟨286, 548, [(.variableName, 281), (.accountText, 280)], [], [(.accountLiteralPart, 286)]⟩,
   ⟨286, 548, [(.variableName, 196), (.accountText, 194)], [], [(.accountLiteralPart, 203)]⟩,
   .complete 287 557 .allotment 1 .plain [.kwFrom, .kwTo, .destinationKept],
   .complete 287 558 .allotment 1 .plain [.kwFrom, .kwTo, .destinationKept],
   .complete 287 559 .remainingAllotment 1 .plain [.kwFrom, .kwTo, .destinationKept],
   -- 560
   ⟨284, 560, [(.kwMax, 120), (.kwRemaining, 521)], [], [(.destinationInOrderClause, 583)]⟩,
   ⟨284, 560, [(.kwMax, 120), (.kwRemaining, 522)], [], [(.destinationInOrderClause, 583)]⟩,
   ⟨284, 562, [(.kwMax, 120), (.kwRemaining, 526)], [], [(.destinationInOrderClause, 583)]⟩,
   ⟨284, 562, [(.kwMax, 120), (.kwRemaining, 527)], [], [(.destinationInOrderClause, 583)]⟩,
   .complete 288 564 .sentValue 1 .plain [.lparen, .kwFrom],
   .complete 277 565 .varDeclarations 1 .plain afterVarOrigin,
   .complete 277 566 .varDeclarations 2 .plain afterVarOrigin,
   ⟨289, 567, [(.comma, 113)], [(⟨.functionCallArgs, 2, .plain⟩, [.rparen])], []⟩,
   -- 568
   .complete 277 568 .varDeclaration 3 .declaration afterVarOrigin,
   .complete 288 569 .sentAllLit 4 .bracketedAsset [.lparen, .kwFrom],
   ⟨290, 318, [(.kwAllowing, 574)], [(⟨.srcAccount, 2, .plain⟩, [.kwDestination])], []⟩,
   ⟨291, 571, [(.kwOverdraft, 653), (.kwUnbounded, 650)], [], []⟩,
   ⟨291, 571, [(.kwOverdraft, 654), (.kwUnbounded, 651)], [], []⟩,
   ⟨291, 571, [(.kwOverdraft, 655), (.kwUnbounded, 652)], [], []⟩,
   ⟨291, 574, [(.kwOverdraft, 664), (.kwUnbounded, 661)], [], []⟩,
   ⟨291, 574, [(.kwOverdraft, 665), (.kwUnbounded, 662)], [], []⟩]

/-- The states from 576 to 639. -/
def page9 : List State :=
  [⟨291, 574, [(.kwOverdraft, 666), (.kwUnbounded, 663)], [], []⟩,
   .complete 284 368 .destination 1 .plain [.kwMax, .kwRemaining],
   .complete 284 369 .destination 1 .plain [.kwMax, .kwRemaining],
   .complete 284 370 .destination 1 .plain [.kwMax, .kwRemaining],
   .complete 284 371 .destination 1 .plain [.kwMax, .kwRemaining],
   .complete 284 581 .inOrderClauses 1 .plain [.kwMax, .kwRemaining],
   .complete 284 372 .destAllotment 3 .plain [.kwMax, .kwRemaining],
   .complete 284 583 .inOrderClauses 2 .plain [.kwMax, .kwRemaining],
   -- 584
   .complete 284 396 .keptOrDestination 1 .plain [.kwMax, .kwRemaining],
   .complete 284 397 .keptOrDestination 1 .plain [.kwMax, .kwRemaining],
   .complete 284 373 .destInorder 4 .plain [.kwMax, .kwRemaining],
   .complete 284 399 .destinationTo 2 .plain [.kwMax, .kwRemaining],
   .complete 284 588 .destinationInOrderClause 3 .plain [.kwMax, .kwRemaining],
   .complete 284 374 .destInorder 5 .plain [.kwMax, .kwRemaining],
   .complete 284 375 .destOneof 5 .plain [.kwMax, .kwRemaining],
   .complete 284 376 .destOneof 6 .plain [.kwMax, .kwRemaining],
   -- 592
   ⟨310, 592, [(.lbrace, 491)], [], []⟩,
   ⟨311, 593, [(.lparen, 42)], [], []⟩,
   ⟨311, 593, [(.lparen, 43)], [], []⟩,
   ⟨311, 593, [(.lparen, 44)], [], []⟩,
   ⟨311, 593, [(.lparen, 45)], [], []⟩,
   ⟨311, 593, [(.lparen, 46)], [], []⟩,
   ⟨311, 593, [(.lparen, 47)], [], []⟩,
   ⟨311, 593, [(.lparen, 48)], [], []⟩,
   -- 600
   ⟨311, 593, [(.lparen, 49)], [], []⟩,
   ⟨311, 593, [(.lparen, 50)], [], []⟩,
   ⟨311, 602, [(.lparen, 51)], [], []⟩,
   ⟨311, 602, [(.lparen, 52)], [], []⟩,
   ⟨311, 602, [(.lparen, 53)], [], []⟩,
   ⟨311, 602, [(.lparen, 54)], [], []⟩,
   ⟨311, 602, [(.lparen, 55)], [], []⟩,
   ⟨311, 602, [(.lparen, 56)], [], []⟩,
   -- 608
   ⟨311, 602, [(.lparen, 57)], [], []⟩,
   ⟨311, 602, [(.lparen, 58)], [], []⟩,
   ⟨311, 602, [(.lparen, 59)], [], []⟩,
   ⟨312, 611, [], [], []⟩,
   ⟨311, 612, [(.lparen, 615)], [], []⟩,
   ⟨313, 613, [(.kwFrom, 110)], [], []⟩,
   ⟨314, 614, [(.variableName, 503)], [], []⟩,
   ⟨315, 615, [(.kwSource, 634)], [], []⟩,
   -- 616
   ⟨322, 616, [(.rparen, 365)], [], []⟩,
   ⟨322, 616, [(.rparen, 406)], [], []⟩,
   ⟨322, 616, [(.rparen, 344)], [], []⟩,
   ⟨322, 616, [(.rparen, 481)], [], []⟩,
   ⟨322, 616, [(.rparen, 159)], [], []⟩,
   ⟨322, 616, [(.rparen, 189)], [], []⟩,
   ⟨322, 616, [(.rparen, 253)], [], []⟩,
   ⟨322, 616, [(.rparen, 313)], [], []⟩,
   -- 624
   ⟨322, 616, [(.rparen, 254)], [], []⟩,
   ⟨322, 625, [(.rparen, 366)], [], []⟩,
   ⟨322, 625, [(.rparen, 407)], [], []⟩,
   ⟨322, 625, [(.rparen, 345)], [], []⟩,
   ⟨322, 625, [(.rparen, 482)], [], []⟩,
   ⟨322, 625, [(.rparen, 160)], [], []⟩,
   ⟨322, 625, [(.rparen, 190)], [], []⟩,
   ⟨322, 625, [(.rparen, 255)], [], []⟩,
   -- 632
   ⟨322, 625, [(.rparen, 314)], [], []⟩,
   ⟨322, 625, [(.rparen, 256)], [], []⟩,
   ⟨323, 634, [(.equals, 14)], [], []⟩,
   ⟨324, 635, [(.rbracket, 569)], [], []⟩,
   ⟨325, 636, [(.kwDestination, 647)], [], []⟩,
   .complete 325 347 .source 1 .plain [.kwDestination],
   .complete 325 348 .source 1 .plain [.kwDestination],
   .complete 325 349 .source 1 .plain [.kwDestination]]

/-- The states from 640 to 684. -/
def page10 : List State :=
  [.complete 325 350 .source 1 .plain [.kwDestination],
   .complete 325 351 .source 1 .plain [.kwDestination],
   .complete 325 352 .source 1 .plain [.kwDestination],
   .complete 325 353 .source 1 .plain [.kwDestination],
   ⟨310, 644, [(.lbrace, 8)], [], []⟩,
   ⟨310, 644, [(.lbrace, 9)], [], []⟩,
   ⟨310, 644, [(.lbrace, 10)], [], []⟩,
   ⟨323, 647, [(.equals, 21)], [], []⟩,
   -- 648
   .complete 325 354 .srcInorder 2 .plain [.kwDestination],
   ⟨313, 649, [(.kwFrom, 15)], [], []⟩,
   ⟨326, 650, [(.kwOverdraft, 667)], [], []⟩,
   ⟨326, 650, [(.kwOverdraft, 359)], [], []⟩,
   ⟨326, 650, [(.kwOverdraft, 389)], [], []⟩,
   ⟨327, 653, [(.kwUp, 668)], [], []⟩,
   ⟨327, 653, [(.kwUp, 669)], [], []⟩,
   ⟨327, 653, [(.kwUp, 670)], [], []⟩,
   -- 656
   .complete 325 356 .srcAllotment 3 .plain [.kwDestination],
   .complete 325 357 .srcInorder 3 .plain [.kwDestination],
   ⟨322, 658, [(.rparen, 490)], [], []⟩,
   ⟨310, 659, [(.lbrace, 519)], [], []⟩,
   ⟨310, 659, [(.lbrace, 520)], [], []⟩,
   ⟨326, 661, [(.kwOverdraft, 673)], [], []⟩,
   ⟨326, 661, [(.kwOverdraft, 362)], [], []⟩,
   ⟨326, 661, [(.kwOverdraft, 394)], [], []⟩,
   -- 664
   ⟨327, 664, [(.kwUp, 674)], [], []⟩,
   ⟨327, 664, [(.kwUp, 675)], [], []⟩,
   ⟨327, 664, [(.kwUp, 676)], [], []⟩,
   .complete 325 359 .srcAccountUnboundedOverdraft 4 .unboundedOverdraft [.kwDestination],
   ⟨330, 668, [(.kwTo, 121)], [], []⟩,
   ⟨330, 668, [(.kwTo, 122)], [], []⟩,
   ⟨330, 668, [(.kwTo, 123)], [], []⟩,
   .complete 325 360 .srcOneof 4 .plain [.kwDestination],
   -- 672
   .complete 325 361 .srcCapped 4 .capped [.kwDestination],
   .complete 325 362 .srcAccountUnboundedOverdraft 5 .unboundedOverdraft [.kwDestination],
   ⟨330, 674, [(.kwTo, 124)], [], []⟩,
   ⟨330, 674, [(.kwTo, 125)], [], []⟩,
   ⟨330, 674, [(.kwTo, 126)], [], []⟩,
   ⟨331, 677, [(.rbrace, 373)], [], []⟩,
   ⟨331, 677, [(.rbrace, 586)], [], []⟩,
   ⟨331, 679, [(.rbrace, 374)], [], []⟩,
   -- 680
   ⟨331, 679, [(.rbrace, 589)], [], []⟩,
   ⟨331, 681, [(.rbrace, 375)], [], []⟩,
   ⟨331, 681, [(.rbrace, 590)], [], []⟩,
   ⟨331, 683, [(.rbrace, 376)], [], []⟩,
   ⟨331, 683, [(.rbrace, 591)], [], []⟩]

end Numscript.Automaton
